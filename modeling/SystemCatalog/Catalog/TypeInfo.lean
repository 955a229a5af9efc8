import SystemCatalog.Catalog.Row

/-!
# Facts about the engine's types
-/

namespace SystemCatalog.Catalog

inductive Searchability where
  | none
  | basic
  | full
  deriving DecidableEq, Repr

def Searchability.code : Searchability → Int
  | none => 0
  | basic => 2
  | full => 3

structure TypeInfo where
  name : String
  precision : Option Int := .none
  caseSensitive : Bool := false
  searchable : Searchability := .basic
  maximumScale : Int := 0

namespace TypeInfo

def fields : List String :=
  ["type_name", "data_type", "precision", "literal_prefix", "literal_suffix", "create_params",
   "nullable", "case_sensitive", "searchable", "unsigned_attribute", "fixed_prec_scale",
   "auto_increment", "local_type_name", "minimum_scale", "maximum_scale", "sql_data_type",
   "sql_datetime_sub", "num_prec_radix"]

def dataType (t : TypeInfo) : StandardType := mapNativeType (.text t.name)

/-- The row in the order of its fields: every type can be null, is unsigned as far as tools are
concerned, counts in tens and has no further attributes. -/
def cells (t : TypeInfo) : List Cell :=
  [.value (.text t.name), .type t.dataType,
   .value (match t.precision with | some n => .int n | .none => .null), .value .null, .value .null,
   .value .null, .value (.int 1), .value (.bool t.caseSensitive), .value (.int t.searchable.code),
   .value (.bool true), .value (.bool false), .value (.bool false), .value (.text t.name),
   .value (.int 0), .value (.int t.maximumScale), .value .null, .value .null, .value (.int 10)]

def arrayElements : List String :=
  ["string", "ip", "long", "integer", "short", "boolean", "byte", "float", "double", "object"]

def all : List TypeInfo :=
  [{ name := "byte", precision := some 3 },
   { name := "long", precision := some 19 },
   { name := "integer", precision := some 10 },
   { name := "short", precision := some 5 },
   { name := "float", precision := some 7, maximumScale := 6 },
   { name := "double", precision := some 15, maximumScale := 14 },
   { name := "string", caseSensitive := true, searchable := .full },
   { name := "ip", precision := some 15, searchable := .full },
   { name := "boolean" },
   { name := "timestamp", caseSensitive := true },
   { name := "object", searchable := .none }] ++
  arrayElements.map fun element =>
    { name := element ++ String.ofList arraySuffix, searchable := .none }

end TypeInfo

end SystemCatalog.Catalog
