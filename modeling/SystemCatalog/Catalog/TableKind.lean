import SystemCatalog.Datum.Order
import SystemCatalog.Fault
import SystemCatalog.Text.Blank
import SystemCatalog.Text.LetterCase

/-!
# Table kinds

The engine's system tables and views are those in its system schemas.  A requested kind becomes a
condition on catalog rows, and a catalog row gets the kind that is reported for it.
-/

namespace SystemCatalog.Catalog

def systemSchemas : List String := ["information_schema", "pg_catalog", "sys"]

def tableTypes : List String := ["FOREIGN TABLE", "SYSTEM TABLE", "SYSTEM VIEW", "TABLE", "VIEW"]

def systemSchemaList : String :=
  String.intercalate ", " (systemSchemas.map fun schema => "'" ++ schema ++ "'")

def inSystemSchemas (column : String) (inside : Bool) : String :=
  column ++ (if inside then " IN (" else " NOT IN (") ++ systemSchemaList ++ ")"

def typedCondition (type column : String) (inside : Bool) : String :=
  "(table_type = '" ++ type ++ "' AND " ++ inSystemSchemas column inside ++ ")"

/-- The condition for a kind of table, where the catalog tells types apart (`typed`) or only
schemas; a kind that the catalog cannot tell has none. -/
def kindCondition? (kind : String) (typed : Bool) (column : String) : Option String :=
  match kind, typed with
  | "TABLE", false => some (inSystemSchemas column false)
  | "SYSTEM TABLE", false => some (inSystemSchemas column true)
  | "TABLE", true => some (typedCondition "BASE TABLE" column false)
  | "SYSTEM TABLE", true => some (typedCondition "BASE TABLE" column true)
  | "VIEW", true => some (typedCondition "VIEW" column false)
  | "SYSTEM VIEW", true => some (typedCondition "VIEW" column true)
  | "FOREIGN TABLE", true => some "table_type = 'FOREIGN'"
  | _, _ => none

def normalizeKind (kind : String) : String :=
  String.ofList (Text.upper (Text.trim kind.toList))

/-- The condition for a kind of table as it is asked for: padding and letter case do not count. -/
def requestedCondition? (kind : String) (typed : Bool) (column : String) : Option String :=
  kindCondition? (normalizeKind kind) typed column

def isSystemSchema : Datum → Except Fault Bool
  | .text s => .ok (systemSchemas.contains s)
  | d => if d.isKey then .ok false else .error .wrongKind

def legacyKind (schema : Datum) : Except Fault String := do
  return if ← isSystemSchema schema then "SYSTEM TABLE" else "TABLE"

/-- The kind that is reported where the catalog tells types apart; an unknown type is its own
kind. -/
def extendedKind (type schema : Datum) : Except Fault Datum := do
  let system ← isSystemSchema schema
  return match type with
    | .text "BASE TABLE" => .text (if system then "SYSTEM TABLE" else "TABLE")
    | .text "VIEW" => .text (if system then "SYSTEM VIEW" else "VIEW")
    | .text "FOREIGN" => .text "FOREIGN TABLE"
    | type => type

/-- Who generates a table's self-referencing column, if the catalog says one of two words. -/
def referenceGeneration : Datum → Except Fault Datum
  | .text "SYSTEM GENERATED" => .ok (.text "SYSTEM")
  | .text "USER GENERATED" => .ok (.text "USER")
  | d => if d.isKey then .ok .null else .error .wrongKind

end SystemCatalog.Catalog
