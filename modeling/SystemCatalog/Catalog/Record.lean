import SystemCatalog.Assoc
import SystemCatalog.Datum.Shown
import SystemCatalog.Fault
import SystemCatalog.Text.LetterCase

/-!
# Rows of a result

A driver delivers rows as tuples, whose columns a description names, or as dictionaries.  Both
become records, whose fields are named in small letters.
-/

namespace SystemCatalog.Catalog

inductive RawRow where
  | absent
  | cells (values : List Datum)
  | mapping (entries : List (Datum × Datum))
  deriving Inhabited

abbrev Record := List (String × Datum)

namespace Record

def get? (r : Record) (name : String) : Option Datum := r.lookup name

def getD (r : Record) (name : String) : Datum := (r.get? name).getD .null

def require (r : Record) (name : String) : Except Fault Datum :=
  match r.get? name with
  | some d => .ok d
  | none => .error (.missingKey (.text name))

/-- The record of the fields; a repeated one keeps its first place and its last value. -/
def ofFields (fields : List (String × Datum)) : Record := Assoc.ofList fields

/-- The record of a dictionary's entries whose keys are texts; no other can be asked for. -/
def ofEntries (entries : List (Datum × Datum)) : Record :=
  ofFields (entries.filterMap fun e =>
    match e.1 with
    | .text name => some (name, e.2)
    | _ => none)

def toDatum (r : Record) : Datum := .dict (r.map fun (name, value) => (.text name, value))

def fieldName (column : Datum) : String := String.ofList (Text.lower column.plain.toList)

/-- The values under the names of the columns; a row may have more values, but not fewer. -/
def zipNames : List String → List Datum → Except Fault (List (String × Datum))
  | [], _ => .ok []
  | _ :: _, [] => .error .outOfRange
  | name :: names, value :: values => do return (name, value) :: (← zipNames names values)

/-- The record for a row, by the names of the columns; no names mean that none are known. -/
def ofRow (names : List String) : RawRow → Except Fault Record
  | .mapping entries => .ok (ofFields (entries.map fun (key, value) => (fieldName key, value)))
  | .cells values =>
    if names.isEmpty then .error .unnamedColumns
    else do return ofFields (← zipNames names values)
  | .absent => .error (if names.isEmpty then .unnamedColumns else .wrongKind)

def ofResult (columns : Option (List Datum)) (rows : List RawRow) : Except Fault (List Record) :=
  rows.mapM (ofRow ((columns.getD []).map fieldName))

end Record

end SystemCatalog.Catalog
