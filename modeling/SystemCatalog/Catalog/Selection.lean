import SystemCatalog.Catalog.Answer
import SystemCatalog.Catalog.Shape
import SystemCatalog.Sql.SelectList

/-!
# Results of catalog queries

What a driver may deliver for the columns that a statement selects, and what the rows of the answer
should report of it.
-/

namespace SystemCatalog.Catalog

def Form.kind : Form → Kind
  | tablesLegacy | tablesExtended => .tables
  | columnsLegacy | columnsExtended => .columns
  | keysAsArray | keysByColumn => .primaryKeys
  | schemas => .schemas

/-- Whether a lookup can be written: its patterns are null or texts without zero characters, a
table is given where it cannot be left out, and the requested kinds are texts. -/
structure Searchable (kind : Kind) (f : Filters) : Prop where
  patterns : ∀ a ∈ kind.arguments, f.value a = .null ∨ Writable (f.value a)
  table : kind = .primaryKeys → f.table ≠ .null
  types : f.types = .null ∨
    ∃ kinds : List String, Query.requestedKinds f.types = .ok (kinds.map .text)

/-! ### What a driver delivers -/

def recordNames (names : List String) : List String :=
  names.map fun name => Record.fieldName (.text name)

def isTextOrNull : Datum → Bool
  | .null | .text _ => true
  | _ => false

def isIntOrNull : Datum → Bool
  | .null | .int _ => true
  | _ => false

/-- The texts of an array, of which null has none. -/
def texts? : Datum → Option (List String)
  | .null => some []
  | .list items => items.mapM fun
    | .text s => some s
    | _ => none
  | _ => none

/-- Whether a column may hold a value, by its name in a record. -/
def admits : String → Datum → Bool
  | "ordinal_position", d | "key_seq", d => isIntOrNull d && !d.isNull
  | "numeric_precision", d | "numeric_precision_radix", d | "character_octet_length", d =>
    isIntOrNull d
  | "schema_name", d | "table_schema", d | "table_schem", d => isTextOrNull d
  | "table_type", d | "reference_generation", d => isTextOrNull d
  | "is_generated", .bool _ => true
  | "is_generated", d => isTextOrNull d
  | "column_names", d => (texts? d).isSome
  | _, _ => true

def Admitted (names : List String) (values : List Datum) : Prop :=
  ∀ p ∈ (recordNames names).zip values, admits p.1 p.2 = true

/-- Whether a driver delivers the values of the named columns as a row: as a tuple, with a
description that names the columns in any letter case, or as a dictionary whose keys do. -/
inductive Delivers (names : List String) (description : Option (List Datum)) :
    List Datum → RawRow → Prop where
  | cells {columns values : List Datum} (described : description = some columns)
      (named : columns.map Record.fieldName = recordNames names)
      (full : values.length = names.length) : Delivers names description values (.cells values)
  | mapping {entries : List (Datum × Datum)} {values : List Datum}
      (named : (entries.map fun e => (Record.fieldName e.1, e.2)).Perm
        ((recordNames names).zip values))
      (full : values.length = names.length) : Delivers names description values (.mapping entries)

/-! ### What an answer reports -/

namespace Query

def field? (q : Query) (row : Row) (name : String) : Option Cell :=
  (q.columns.zip row.cells).lookup name

/-- The columns that are selected for a field of the answer. -/
def sources : String → List String
  | "table_schem" => ["table_schem", "table_schema", "schema_name"]
  | field => [field]

/-- Whether the values hold `d` in the column that is selected for a field. -/
def Selected (names : List String) (values : List Datum) (field : String) (d : Datum) : Prop :=
  ∃ name, (recordNames names).find? (sources field).contains = some name ∧
    (name, d) ∈ (recordNames names).zip values

/-- Whether the rows of an answer report what is selected in one row of the result. -/
structure Reports (q : Query) (names : List String) (values : List Datum) (rows : List Row) :
    Prop where
  single : q.form ≠ .keysAsArray → rows.length = 1
  numbered : q.form = .keysAsArray → ∃ array elements, Selected names values "column_names" array ∧
    texts? array = some elements ∧
    rows.map (fun row => (q.field? row "column_name", q.field? row "key_seq")) =
      elements.zipIdx.map fun (s, i) => (some (.value (.text s)), some (.value (.int i)))
  fields : ∀ row ∈ rows, ∀ name ∈ ["table_schem", "table_name", "column_name"], name ∈ q.columns →
    (name = "column_name" → q.form ≠ .keysAsArray) →
    ∃ d, Selected names values name d ∧ q.field? row name = some (.value d)

end Query

end SystemCatalog.Catalog
