import SystemCatalog.Fault

/-!
# Kinds of catalog objects

Each kind of lookup answers with rows of one shape, and each is answered by one of the forms that
a query can take.
-/

namespace SystemCatalog.Catalog

/-- What a lookup asks for. -/
inductive Kind where
  | tables
  | columns
  | primaryKeys
  | schemas
  deriving DecidableEq, Repr, Inhabited

namespace Kind

def all : List Kind := [tables, columns, primaryKeys, schemas]

def name : Kind → String
  | tables => "TABLES"
  | columns => "COLUMNS"
  | primaryKeys => "PRIMARY_KEYS"
  | schemas => "SCHEMAS"

def label : Kind → String
  | tables => "tables"
  | columns => "columns"
  | primaryKeys => "primary_keys"
  | schemas => "schemas"

def fields : Kind → List String
  | tables =>
    ["table_cat", "table_schem", "table_name", "table_type", "remarks", "type_cat",
     "type_schem", "type_name", "self_referencing_col_name", "ref_generation"]
  | columns =>
    ["table_cat", "table_schem", "table_name", "column_name", "data_type", "type_name",
     "column_size", "decimal_digits", "num_prec_radix", "nullable", "remarks", "column_def",
     "ordinal_position", "is_nullable", "is_generatedcolumn"]
  | primaryKeys =>
    ["table_cat", "table_schem", "table_name", "column_name", "key_seq", "pk_name"]
  | schemas => ["table_schem", "table_catalog"]

def ofDatum (d : Datum) : Except Fault Kind :=
  match d with
  | .text s =>
    match all.find? (·.name == s) with
    | some kind => .ok kind
    | none => .error (.unknownMember d "ObjectKind")
  | _ => .error (.unknownMember d "ObjectKind")

end Kind

/-- How a query is put together for a bracket of versions. -/
inductive Form where
  | tablesLegacy
  | tablesExtended
  | columnsLegacy
  | columnsExtended
  | keysAsArray
  | keysByColumn
  | schemas
  deriving DecidableEq, Repr, Inhabited

namespace Form

def all : List Form :=
  [tablesLegacy, tablesExtended, columnsLegacy, columnsExtended, keysAsArray, keysByColumn, schemas]

def name : Form → String
  | tablesLegacy => "tables_legacy"
  | tablesExtended => "tables_extended"
  | columnsLegacy => "columns_legacy"
  | columnsExtended => "columns_extended"
  | keysAsArray => "primary_keys_constraint_array"
  | keysByColumn => "primary_keys_key_column_usage"
  | schemas => "schemas"

def ofDatum (d : Datum) : Except Fault Form :=
  match d with
  | .text s =>
    match all.find? (·.name == s) with
    | some form => .ok form
    | none => .error (.unknownMember d "QueryForm")
  | _ => .error (.unknownMember d "QueryForm")

end Form

end SystemCatalog.Catalog
