import SystemCatalog.Catalog.NativeType

/-!
# Rows of answers

Answers have one shape per kind of lookup, whatever the version of the engine.  Fields that a
version cannot supply hold a fixed value, mostly null.
-/

namespace SystemCatalog.Catalog

inductive Cell where
  | value (d : Datum)
  | type (t : StandardType)

structure TableRow where
  catalog : Datum
  schema : Datum
  name : Datum
  type : Datum
  selfReferencing : Datum
  generation : Datum

structure ColumnRow where
  catalog : Datum
  schema : Datum
  table : Datum
  name : Datum
  nativeType : Datum
  size : Option Int
  digits : Option Int
  radix : Option Int
  nullable : Bool
  initial : Datum
  position : Int
  generated : Bool

structure PrimaryKeyRow where
  catalog : Datum
  schema : Datum
  table : Datum
  column : Datum
  position : Int
  key : Datum

structure SchemaRow where
  name : Datum

inductive Row where
  | table (r : TableRow)
  | column (r : ColumnRow)
  | primaryKey (r : PrimaryKeyRow)
  | schema (r : SchemaRow)

def ofInt? : Option Int → Datum
  | some n => .int n
  | none => .null

def yesNo (b : Bool) : Datum := .text (if b then "YES" else "NO")

def TableRow.cells (r : TableRow) : List Cell :=
  [.value r.catalog, .value r.schema, .value r.name, .value r.type, .value (.text ""),
   .value .null, .value .null, .value .null, .value r.selfReferencing, .value r.generation]

def ColumnRow.cells (r : ColumnRow) : List Cell :=
  [.value r.catalog, .value r.schema, .value r.table, .value r.name,
   .type (mapNativeType r.nativeType), .value r.nativeType, .value (ofInt? r.size),
   .value (ofInt? r.digits), .value (ofInt? r.radix), .value (.int r.nullable.toInt), .value .null,
   .value r.initial, .value (.int r.position), .value (yesNo r.nullable),
   .value (yesNo r.generated)]

def PrimaryKeyRow.cells (r : PrimaryKeyRow) : List Cell :=
  [.value r.catalog, .value r.schema, .value r.table, .value r.column, .value (.int r.position),
   .value r.key]

def SchemaRow.cells (r : SchemaRow) : List Cell := [.value r.name, .value .null]

def Row.cells : Row → List Cell
  | table r => r.cells
  | column r => r.cells
  | primaryKey r => r.cells
  | schema r => r.cells

end SystemCatalog.Catalog
