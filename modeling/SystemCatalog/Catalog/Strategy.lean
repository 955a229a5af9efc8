import SystemCatalog.Catalog.Kind
import SystemCatalog.Version.Brackets

/-!
# Strategies by version

Everything in a catalog query that depends on the engine's version, one table of brackets per
choice.  A new engine version needs a new row and nothing else.
-/

namespace SystemCatalog.Catalog.Strategy

open Version (Brackets)

def sinceThen {α : Type} (name : String) (first : α) (threshold : Version) (later : α) :
    Brackets α :=
  ⟨name, [(Version.ofInts 0 0 0, some first), (threshold, some later)]⟩

def schemaColumn : Brackets String :=
  sinceThen "schema column" "schema_name" (.ofInts 0 57 0) "table_schema"

def tablesForm : Brackets Form :=
  sinceThen "tables form" .tablesLegacy (.ofInts 2 0 0) .tablesExtended

def columnsForm : Brackets Form :=
  sinceThen "columns form" .columnsLegacy (.ofInts 2 0 0) .columnsExtended

def primaryKeysForm : Brackets Form :=
  sinceThen "primary keys form" .keysAsArray (.ofInts 2 3 0) .keysByColumn

/-- The field with the schema of a key's column: up to 3.0.0 the schema field of that table is
constant and the schema stands in the catalog field. -/
def keySchemaField : Brackets String :=
  sinceThen "primary keys schema field" "table_catalog" (.ofInts 3 0 1) "table_schema"

def keyCatalogField : Brackets String :=
  sinceThen "primary keys catalog field" "NULL" (.ofInts 5 1 0) "kcu.table_catalog"

/-- How the catalog says whether a column is generated. -/
inductive GeneratedForm where
  | boolean
  | text
  deriving DecidableEq, Repr, Inhabited

def GeneratedForm.name : GeneratedForm → String
  | boolean => "boolean"
  | text => "text"

def generatedForm : Brackets GeneratedForm :=
  sinceThen "is_generated form" .boolean (.ofInts 4 0 0) .text

/-- The privileges that an owner has by default, by the version of the server's protocol: 8.4
added a privilege for truncating. -/
def defaultPrivileges : Brackets String :=
  sinceThen "default ACL privileges" "arwdxt" (.ofInts 8 4 0) "arwdDxt"

end SystemCatalog.Catalog.Strategy
