import SystemCatalog.Connection.Config
import SystemCatalog.Journal.Record
import SystemCatalog.Session.Server
import SystemCatalog.Sql.Literal

/-!
# Sessions

A session reaches a server directly or through a driver, counts the connections that it has opened
and remembers constants of the current one.  `Action` is a computation on a session that may fail;
what has happened until then stays.
-/

namespace SystemCatalog.Session

open Connection (Config Options)
open Journal (Record Timing Level)

inductive Driver where
  | complete
  | withoutErrors
  | missing
  deriving DecidableEq, Repr

inductive Access where
  | direct
  | driver (d : Driver)
  deriving DecidableEq, Repr

structure Link where
  /-- How many connections were open or had been open with this one. -/
  number : Nat
  config : Config
  dropped : Bool := false
  silent : Bool := false

/-- Constants of a connection that are remembered until another one is open. -/
structure Memo where
  generation : Nat
  engine : Option Version := none
  server : Option Version := none
  nameWidth : Option Int := none
  indexKeys : Option Int := none

/-- Something that reaches the driver or the server. -/
inductive Event where
  | connecting (conninfo : String) (options : Options)
  | cursor
  | closing
  | statement (connection : Nat) (sql : String) (parameters : Option (List Datum))
  | handshake (connection : Nat)

structure State where
  server : Server
  access : Access
  /-- The number of connections opened so far. -/
  generation : Nat
  quoting : Sql.Quoting := .standard
  link : Option Link := none
  /-- The time in milliseconds from which a statement counts as slow. -/
  threshold : Int
  memo : Memo
  /-- What has reached the driver or the server, in its order. -/
  events : List Event := []
  records : List Record := []

abbrev Action (α : Type) := EStateM Fault State α

namespace Action

def emit (e : Event) : Action Unit := modify fun s => { s with events := s.events ++ [e] }

def record (r : Record) : Action Unit := modify fun s => { s with records := s.records ++ [r] }

def report (logger : String) (level : Level) (message : String) : Action Unit :=
  record { logger := Journal.loggerName logger, level, message }

def noteTimed (logger name sql : String) (parameters : Datum) (failed : Bool) (s : State) : State :=
  { s with
    records := s.records ++
      [Record.timed logger name s.threshold ⟨some sql, parameters, failed⟩] }

/-- The computation as a block that is timed and logged, whether it fails or not. -/
def timed {α : Type} (logger name sql : String) (parameters : Datum) (a : Action α) : Action α :=
  fun s =>
    match a s with
    | .ok x s => .ok x (noteTimed logger name sql parameters false s)
    | .error f s => .error f (noteTimed logger name sql parameters true s)

end Action

end SystemCatalog.Session
