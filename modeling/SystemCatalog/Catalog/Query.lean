import SystemCatalog.Catalog.Strategy
import SystemCatalog.Catalog.TableKind
import SystemCatalog.Sql.Builder

/-!
# Catalog queries

The statement that answers a lookup, for a version of the engine.  The version decides the form of
the statement and the column that holds the schema; what callers search for stands in it only as
literals.
-/

namespace SystemCatalog.Catalog

open Sql

/-- What a caller searches for; null patterns do not restrict the answer. -/
structure Filters where
  schema : Datum := .null
  table : Datum := .null
  column : Datum := .null
  types : Datum := .null

/-- The statement for a lookup, and what is needed to read its rows. -/
structure Query where
  kind : Kind
  form : Form
  sql : String
  version : Version
  schemaColumn : String

namespace Query

def columns (q : Query) : List String := q.kind.fields

def tableColumns (form : Form) (schemaColumn : String) : List String :=
  [schemaColumn, "table_name"] ++
    if form = .tablesExtended then
      ["table_catalog", "table_type", "self_referencing_column_name", "reference_generation"]
    else []

def columnColumns (form : Form) (schemaColumn : String) : List String :=
  [schemaColumn, "table_name", "column_name", "data_type", "ordinal_position"] ++
    if form = .columnsExtended then
      ["table_catalog", "numeric_precision", "numeric_precision_radix", "column_default",
       "character_octet_length", "is_nullable", "is_generated"]
    else []

def topLevelOnly : Fragment :=
  .trusted "column_name NOT LIKE '%[%]' AND column_name NOT LIKE '%.%'"

/-- The expressions that a query for primary keys selects, each with its name in the answer. -/
def keyColumns (form : Form) (schemaColumn catalogField schemaField : String) :
    List (String × String) :=
  if form = .keysAsArray then
    [("NULL", "TABLE_CAT"), (schemaColumn, "TABLE_SCHEM"), ("table_name", "TABLE_NAME"),
     ("constraint_name", "COLUMN_NAMES"), ("0", "KEY_SEQ"), ("NULL", "PK_NAME")]
  else
    [(catalogField, "\"TABLE_CAT\""), (schemaField, "\"TABLE_SCHEM\""),
     ("kcu.table_name", "\"TABLE_NAME\""), ("kcu.column_name", "\"COLUMN_NAME\""),
     ("kcu.ordinal_position", "\"KEY_SEQ\""), ("kcu.constraint_name", "\"PK_NAME\"")]

def select (columns : List String) : String := "SELECT " ++ String.intercalate ", " columns

def statement (columns : List String) (source : String) (condition : Fragment)
    (order : List String) : Except Fault Fragment :=
  (((Builder.empty.add (.text (select columns))).add (.text ("FROM " ++ source))).whereClause
    (.fragment condition) |>.orderBy order).build

def requestedKinds : Datum → Except Fault (List Datum)
  | .text s => .ok [.text s]
  | d =>
    match d.elements? with
    | some kinds => .ok kinds
    | none => .error .wrongKind

/-- The distinct conditions for requested kinds, after those `found` so far, and the kinds that are
left out because the catalog cannot tell them; a request that is no text ends the search. -/
def kindConditions (typed : Bool) (schemaColumn : String) (found : List String) :
    List Datum → List String × Except Fault (List String)
  | [] => ([], .ok found)
  | .text kind :: rest =>
    match requestedCondition? kind typed schemaColumn with
    | none =>
      let (ignored, conditions) := kindConditions typed schemaColumn found rest
      (kind :: ignored, conditions)
    | some condition =>
      kindConditions typed schemaColumn
        (if found.contains condition then found else found ++ [condition]) rest
  | _ :: _ => ([], .error .noSuchOperation)

def disjunction : List String → Fragment
  | [] => .trusted "1 = 0"
  | [condition] => .trusted condition
  | conditions => .trusted ("(" ++ String.intercalate " OR " conditions ++ ")")

def kindFilter (types : Datum) (typed : Bool) (schemaColumn : String) :
    List String × Except Fault Fragment :=
  if types.isNull then ([], .ok .empty)
  else
    match requestedKinds types with
    | .error f => ([], .error f)
    | .ok kinds =>
      let (ignored, conditions) := kindConditions typed schemaColumn [] kinds
      (ignored, conditions.map disjunction)

def tables (form : Form) (schemaColumn : String) (filters : Filters) (kinds : Fragment) :
    Except Fault Fragment :=
  statement (tableColumns form schemaColumn) "information_schema.tables"
    (conjunction [matching schemaColumn filters.schema, matching? "table_name" filters.table,
      kinds])
    [schemaColumn, "table_name"]

def columnsOf (form : Form) (schemaColumn : String) (filters : Filters) : Except Fault Fragment :=
  statement (columnColumns form schemaColumn) "information_schema.columns"
    (conjunction [matching schemaColumn filters.schema, matching? "table_name" filters.table,
      matching? "column_name" filters.column, topLevelOnly])
    [schemaColumn, "table_name", "ordinal_position"]

def equality? (column : String) (value : Datum) : Fragment :=
  if value.isNull then .empty else equality column value

def aliased (columns : List (String × String)) : List String :=
  columns.map fun (expression, name) => expression ++ " AS " ++ name

def primaryKeys (version : Version) (form : Form) (schemaColumn : String) (filters : Filters) :
    Except Fault Fragment := do
  if form = .keysAsArray then
    statement (aliased (keyColumns form schemaColumn "" "")) "information_schema.table_constraints"
      (conjunction [.trusted "'_id' != ANY(constraint_name)", equality "table_name" filters.table,
        equality? schemaColumn filters.schema])
      ["TABLE_SCHEM", "TABLE_NAME"]
  else
    let schemaField := "kcu." ++ (← Strategy.keySchemaField.select version)
    let catalogField ← Strategy.keyCatalogField.select version
    statement (aliased (keyColumns form schemaColumn catalogField schemaField))
      "information_schema.key_column_usage kcu"
      (conjunction [equality "kcu.table_name" filters.table, equality? schemaField filters.schema])
      ["\"TABLE_SCHEM\"", "\"TABLE_NAME\"", "\"KEY_SEQ\""]

def schemas (filters : Filters) : Except Fault Fragment :=
  ((Builder.empty.add (.text "SELECT schema_name FROM information_schema.schemata")).whereClause
    (.fragment (matching? "schema_name" filters.schema)) |>.orderBy ["schema_name"]).build

/-- The form of the statement for a lookup and the statement, and the requested kinds that are left
out. -/
def compose (version : Version) (kind : Kind) (schemaColumn : String) (filters : Filters) :
    List String × Except Fault (Form × Fragment) :=
  match kind with
  | .tables =>
    match Strategy.tablesForm.select version with
    | .error f => ([], .error f)
    | .ok form =>
      let (ignored, kinds) := kindFilter filters.types (form = .tablesExtended) schemaColumn
      (ignored, do return (form, ← tables form schemaColumn filters (← kinds)))
  | .columns =>
    ([], do
      let form ← Strategy.columnsForm.select version
      return (form, ← columnsOf form schemaColumn filters))
  | .primaryKeys =>
    ([], do
      if filters.table.isNull then throw .tableRequired
      let form ← Strategy.primaryKeysForm.select version
      return (form, ← primaryKeys version form schemaColumn filters))
  | .schemas => ([], do return (.schemas, ← schemas filters))

/-- What becomes of a lookup before it is sent. -/
structure Drafted where
  ignored : List String
  query : Except Fault Query

/-- The query for a lookup, for a version of the engine and a server's rule for literals. -/
def draft (version : Version) (quoting : Quoting) (kind : Kind) (filters : Filters) : Drafted :=
  match Strategy.schemaColumn.select version with
  | .error f => ⟨[], .error f⟩
  | .ok schemaColumn =>
    let (ignored, composed) := compose version kind schemaColumn filters
    ⟨ignored, do
      let (form, fragment) ← composed
      let sql ← fragment.render quoting
      return { kind, form, sql, version, schemaColumn }⟩

end Query

end SystemCatalog.Catalog
