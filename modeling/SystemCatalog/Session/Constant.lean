/-!
# Constants of a connection

The version of the engine and two of its limits are read from its system tables, each from a row of
its own.
-/

namespace SystemCatalog.Session

def versionProbe : String := "select version['number'] as version from sys.nodes limit 1"

/-- A number that stays the same while a connection lasts. -/
inductive Constant where
  | nameWidth
  /-- The largest number of columns in an index. -/
  | indexKeys
  deriving DecidableEq, Repr

namespace Constant

def query : Constant → String
  | nameWidth =>
    "SELECT t.typlen FROM pg_catalog.pg_type t, pg_catalog.pg_namespace n " ++
      "WHERE t.typnamespace=n.oid AND t.typname='name' AND n.nspname='pg_catalog'"
  | indexKeys => "SELECT setting FROM pg_catalog.pg_settings WHERE name='max_index_keys'"

def missing : Constant → String
  | nameWidth => "Unable to find name datatype in the system catalogs."
  | indexKeys =>
    "Unable to determine a value for MaxIndexKeys due to missing system catalog data."

def all : List Constant := [nameWidth, indexKeys]

end Constant

def readsConstant (sql : String) : Bool :=
  (versionProbe :: Constant.all.map Constant.query).contains sql

end SystemCatalog.Session
