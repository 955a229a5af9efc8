import SystemCatalog.Catalog.Query
import SystemCatalog.Catalog.Record
import SystemCatalog.Catalog.Row
import SystemCatalog.Datum.Whole
import SystemCatalog.Text.Cut

/-!
# Answers from records

The records of a result become rows of an answer, by the form of the query that selected them.
-/

namespace SystemCatalog.Catalog

def trimmed (s : String) : List Char := Text.trim s.toList

def trueWords : List String := ["t", "true", "yes", "y", "1", "on"]

/-- Whether a cell says yes: a text by its word, any other value by its own truth. -/
def saysYes : Datum → Bool
  | .text s => trueWords.contains (String.ofList (Text.lower (trimmed s)))
  | d => d.truthy

def whole? (d : Datum) : Except Fault (Option Int) :=
  if d.isNull then .ok none else some <$> d.whole

/-- The elements of an array that is written in braces or without them: pieces between commas,
without their padding and without quotes at their ends; blank pieces are no elements. -/
def arrayElements (s : List Char) : List (List Char) :=
  let inner := Text.unwrap '\x7b' '\x7d' (Text.trim s)
  ((Text.splitOn ',' inner).map Text.trim).filter (!·.isEmpty) |>.map (Text.stripChar '"')

/-- The names of columns in a cell: an array as text or as a sequence, or null for none. -/
def columnNames : Datum → Except Fault (List String)
  | .null => .ok []
  | .text s => .ok ((arrayElements s.toList).map String.ofList)
  | d =>
    match d.elements? with
    | some items => .ok (items.map Datum.plain)
    | none => .error .wrongKind

def saysGenerated (form : Strategy.GeneratedForm) (d : Datum) : Bool :=
  match form with
  | .boolean => saysYes d
  | .text => !d.isNull && Text.upper (trimmed d.plain) == "ALWAYS".toList

def legacyTable (schemaColumn : String) (r : Record) : Except Fault TableRow := do
  let schema ← r.require schemaColumn
  let name ← r.require "table_name"
  return {
    catalog := .null
    schema
    name
    type := .text (← legacyKind schema)
    selfReferencing := .text "_id"
    generation := .text "SYSTEM" }

def extendedTable (schemaColumn : String) (r : Record) : Except Fault TableRow := do
  let schema ← r.require schemaColumn
  let name ← r.require "table_name"
  return {
    catalog := r.getD "table_catalog"
    schema
    name
    type := ← extendedKind (r.getD "table_type") schema
    selfReferencing := r.getD "self_referencing_column_name"
    generation := ← referenceGeneration (r.getD "reference_generation") }

def legacyColumn (schemaColumn : String) (r : Record) : Except Fault ColumnRow := do
  return {
    catalog := .null
    schema := ← r.require schemaColumn
    table := ← r.require "table_name"
    name := ← r.require "column_name"
    nativeType := r.getD "data_type"
    size := none
    digits := none
    radix := some 10
    nullable := true
    initial := .null
    position := ← (← r.require "ordinal_position").whole
    generated := false }

def extendedColumn (form : Strategy.GeneratedForm) (schemaColumn : String) (r : Record) :
    Except Fault ColumnRow := do
  return {
    catalog := r.getD "table_catalog"
    schema := ← r.require schemaColumn
    table := ← r.require "table_name"
    name := ← r.require "column_name"
    nativeType := r.getD "data_type"
    size := ← whole? (r.getD "character_octet_length")
    digits := ← whole? (r.getD "numeric_precision")
    radix := ← whole? (r.getD "numeric_precision_radix")
    nullable := saysYes (r.getD "is_nullable")
    initial := r.getD "column_default"
    position := ← (← r.require "ordinal_position").whole
    generated := saysGenerated form (r.getD "is_generated") }

/-- The columns of a primary key that stands in one array, numbered from zero. -/
def keyFromArray (r : Record) : Except Fault (List PrimaryKeyRow) := do
  let names ← columnNames (r.getD "column_names")
  names.zipIdx.mapM fun (name, position) => do
    return {
      catalog := r.getD "table_cat"
      schema := r.getD "table_schem"
      table := ← r.require "table_name"
      column := .text name
      position
      key := r.getD "pk_name" }

def keyFromColumn (r : Record) : Except Fault PrimaryKeyRow := do
  return {
    catalog := r.getD "table_cat"
    schema := r.getD "table_schem"
    table := ← r.require "table_name"
    column := ← r.require "column_name"
    position := ← (← r.require "key_seq").whole
    key := r.getD "pk_name" }

def schemaRow (r : Record) : Except Fault SchemaRow := do
  return { name := ← r.require "schema_name" }

def Query.answer (q : Query) (records : List Record) : Except Fault (List Row) :=
  match q.form with
  | .tablesLegacy => records.mapM fun r => do return .table (← legacyTable q.schemaColumn r)
  | .tablesExtended => records.mapM fun r => do return .table (← extendedTable q.schemaColumn r)
  | .columnsLegacy => records.mapM fun r => do return .column (← legacyColumn q.schemaColumn r)
  | .columnsExtended => do
    let form ← Strategy.generatedForm.select q.version
    records.mapM fun r => do return .column (← extendedColumn form q.schemaColumn r)
  | .keysAsArray => do return ((← records.mapM keyFromArray).flatten).map .primaryKey
  | .keysByColumn => records.mapM fun r => do return .primaryKey (← keyFromColumn r)
  | .schemas => records.mapM fun r => do return .schema (← schemaRow r)

end SystemCatalog.Catalog
