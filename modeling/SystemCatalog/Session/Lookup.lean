import SystemCatalog.Acl.Grants
import SystemCatalog.Catalog.Answer
import SystemCatalog.Catalog.TypeInfo
import SystemCatalog.Session.Memo

/-!
# Lookups

A lookup finds the version of the engine, writes the query for it, sends the query and reads the
rows of the answer.  Access lists need no query, but an absent one is read by the version of the
server.
-/

namespace SystemCatalog.Session

open Acl (Grants)
open Catalog (Filters Kind Query Record Row)
open Journal (Level)
open Session.Action

/-- The filters that a lookup's arguments stand for, in the order of its kind; only keys have one
that is required. -/
def filtersOf : Kind → List Datum → Except Fault Filters
  | .tables, [] => .ok {}
  | .tables, [schema] => .ok { schema }
  | .tables, [schema, table] => .ok { schema, table }
  | .tables, [schema, table, types] => .ok { schema, table, types }
  | .columns, [] => .ok {}
  | .columns, [schema] => .ok { schema }
  | .columns, [schema, table] => .ok { schema, table }
  | .columns, [schema, table, column] => .ok { schema, table, column }
  | .primaryKeys, [table] => .ok { table }
  | .primaryKeys, [table, schema] => .ok { table, schema }
  | .schemas, [] => .ok {}
  | .schemas, [schema] => .ok { schema }
  | _, _ => .error .wrongKind

def writeQuery (kind : Kind) (filters : Filters) : Action Query := do
  let version ← engineVersion
  let drafted := Query.draft version (← get).quoting kind filters
  drafted.ignored.forM fun kind =>
    report "catalog.queries" Level.debug ("Ignoring unsupported table kind " ++ Text.quoted kind)
  let query ← ofExcept drafted.query
  report "catalog.queries" Level.debug
    ("Built " ++ kind.name ++ " query (" ++ query.form.name ++ ") for engine " ++ version.text)
  return query

def writeQueryFor (kind : Datum) (filters : Filters) : Action Query := do
  writeQuery (← ofExcept (Kind.ofDatum kind)) filters

def fetch (query : Query) : Action (List Row) := do
  execute query.sql .null
  let server := (← get).server
  let rows ← ofExcept do query.answer (← Record.ofResult server.columns server.rows)
  report "catalog.projection" Level.debug
    ("Projected " ++ toString rows.length ++ " " ++ query.kind.name ++ " rows (" ++
      query.form.name ++ ")")
  return rows

def lookup (kind : Kind) (filters : Filters) : Action (List Row) := do
  let query ← writeQuery kind filters
  timed "catalog.metadata" ("catalog." ++ kind.label) query.sql .null (fetch query)

/-- The privileges that an absent access list stands for; a present one needs none. -/
def defaultPrivileges (array : Option String) : Action String := do
  if array.isSome then return ""
  else ofExcept (Catalog.Strategy.defaultPrivileges.select (← serverVersion))

def decodeGrants (array : Option String) (owner : String) : Action Grants := do
  let grants := Grants.decode array owner (← defaultPrivileges array)
  grants.malformed.forM fun token =>
    report "catalog.acl" Level.debug
      ("Dropping ACL entry " ++ Text.quoted token ++ ": " ++ (Fault.malformedEntry token).message)
  return grants

def tablePrivileges (schema : Option String) (table : String) (array : Option String)
    (owner : String) : Action (List Grants.Row) := do
  return (← decodeGrants array owner).rows none schema table

end SystemCatalog.Session
