import SystemCatalog.Connection.Threshold
import SystemCatalog.Session.Lookup

/-!
# Running sessions

A session is a list of steps: calls on it and changes of the server.  Each step has a reply or a
fault, and reports what reached the server, what was logged and the state of the connection.
-/

namespace SystemCatalog.Session

open Acl (Grants)
open Catalog (Kind RawRow Row)
open Journal (Record)
open Session.Action

def State.direct (server : Server) (quoting : Sql.Quoting) (threshold : Int) : State where
  server
  access := .direct
  generation := 1
  quoting
  threshold
  memo := { generation := 1 }

/-- A session with access through a driver, before its first connection; the threshold is the
caller's, which is null for the default one. -/
def State.overDriver (server : Server) (driver : Driver) (threshold : Datum) :
    Except Fault State := do
  let threshold ← (Connection.threshold Connection.defaultThreshold threshold none).1
  return {
    server
    access := .driver driver
    generation := 0
    threshold := ← threshold.whole
    memo := { generation := 0 } }

inductive Step where
  | alter (change : Server → Server)
  | drop
  | renew
  | connect (request : Connection.Request)
  | close
  | execute (sql : String) (parameters : Datum)
  | lookup (kind : Kind) (arguments : List Datum)
  | catalogs
  | tableTypes
  | typeInfo
  | engineVersion
  | serverVersion
  | handshake
  | maxNameLength
  | maxIndexKeys
  | isAtLeast (version : Version.Given)
  | decodeGrants (array : Option String) (owner : String)
  | tablePrivileges (schema : Option String) (table : String) (array : Option String)
    (owner : String)
  | forget
  /-- The session starts anew, with what it remembers or without. -/
  | restart (remember : Bool)

inductive Reply where
  | nothing
  | rows (rows : List Row)
  | names (names : List String)
  | number (n : Int)
  | version (v : Version)
  | truth (b : Bool)
  | grants (g : Grants)
  | privileges (rows : List Grants.Row)
  | result (rows : List RawRow)

def Step.action : Step → Action Reply
  | .alter change => do
    modify fun s => { s with server := change s.server }
    return .nothing
  | .drop => do
    modify fun s => { s with link := s.link.map fun link => { link with dropped := true } }
    return .nothing
  | .renew => do
    modify fun s => { s with generation := s.generation + 1 }
    return .nothing
  | .connect request => do
    let config ← ofExcept request.config
    let _ ← Session.connect config
    return .nothing
  | .close => do
    Session.close
    return .nothing
  | .execute sql parameters => do
    Session.execute sql parameters
    return .result ((← get).server.resultRows sql)
  | .lookup kind arguments => do
    let filters ← ofExcept (filtersOf kind arguments)
    return .rows (← Session.lookup kind filters)
  | .catalogs => return .names []
  | .tableTypes => return .names Catalog.tableTypes
  | .typeInfo => return .number Catalog.TypeInfo.all.length
  | .engineVersion => do return .version (← Session.engineVersion)
  | .serverVersion => do return .version (← Session.serverVersion)
  | .handshake => do return .version (← Session.handshake)
  | .maxNameLength => do return .number (← Session.maxNameLength)
  | .maxIndexKeys => do return .number (← Session.maxIndexKeys)
  | .isAtLeast given => do
    let version ← Session.serverVersion
    return .truth (← ofExcept do version.atLeast (← given.resolve))
  | .decodeGrants array owner => do return .grants (← Session.decodeGrants array owner)
  | .tablePrivileges schema table array owner => do
    return .privileges (← Session.tablePrivileges schema table array owner)
  | .forget => do
    Session.forget
    return .nothing
  | .restart remember => do
    if !remember then modify fun s => { s with memo := { generation := s.generation } }
    return .nothing

structure Report where
  reply : Except Fault Reply
  events : List Event
  records : List Record
  generation : Nat
  connected : Bool
  quoting : Sql.Quoting

def State.report (s : State) (reply : Except Fault Reply) : Report where
  reply
  events := s.events
  records := s.records
  generation := s.generation
  connected := s.link.isSome
  quoting := s.quoting

def State.perform {α : Type} (s : State) (a : Action α) : Except Fault α × State :=
  match a { s with events := [], records := [] } with
  | .ok x s => (.ok x, s)
  | .error f s => (.error f, s)

def State.run (s : State) : List Step → List Report
  | [] => []
  | step :: rest =>
    let (reply, s) := s.perform step.action
    s.report reply :: s.run rest

end SystemCatalog.Session
