import SystemCatalog.Connection.Placeholders
import SystemCatalog.Session.State

/-!
# The wire

Opening, replacing and closing connections, and sending statements.  A connection that the server
has closed is replaced before the next statement, with the settings it was opened with; a failed
attempt leaves the session as it was.
-/

namespace SystemCatalog.Session

open Connection (Config Options)
open Journal (Level)
open Session.Action

def wireLogger : String := "adapters.crate"

/-- Whether a driver takes the options: their names are texts, and none is that of an argument of
its own. -/
def acceptable (options : Options) : Bool :=
  options.all fun e =>
    match e.1 with
    | .text name => name != "autocommit" && name != "conninfo"
    | _ => false

def connectingMessage (label : String) (options : Options) : String :=
  "Connecting to CrateDB " ++ label ++ " (options=" ++
    (Datum.dict (Redaction.options options)).shown ++ ")"

def State.nextLink (s : State) (config : Config) : Link where
  number := s.generation + 1
  config
  silent := s.server.silent

def State.opened (s : State) (config : Config) : State :=
  { s with
    generation := s.generation + 1
    quoting := s.server.quoting
    link := some (s.nextLink config) }

def openLink (config : Config) : Action Link := do
  let options ← ofExcept config.driverOptions
  let label ← ofExcept config.label
  report wireLogger Level.info (connectingMessage label options)
  if !acceptable options then throw .connectFailed
  let conninfo ← ofExcept config.conninfo
  emit (.connecting conninfo ((.text "autocommit", config.autocommit) :: options))
  let s ← get
  if s.server.refusing then throw .connectFailed
  set (s.opened config)
  return s.nextLink config

def connect (config : Config) : Action Link := do
  match (← get).access with
  | .direct => throw .noSuchOperation
  | .driver .missing => throw .driverMissing
  | .driver _ => openLink config

/-- The connection of the session, after a new one has replaced one that the server has closed. -/
def ensureLink : Action Link := do
  match (← get).link with
  | none => throw .notConnected
  | some link =>
    if link.dropped then
      report wireLogger Level.warning "CrateDB connection closed; reconnecting."
      connect link.config
    else return link

/-- Closes the connection, if there is one; the session has none afterwards in any case. -/
def close : Action Unit := do
  let s ← get
  match s.link with
  | none => return
  | some _ =>
    emit .closing
    modify fun s => { s with link := none }
    if s.server.closeFails then throw .closeFailed

/-- What becomes of a statement that has reached the server through a driver. -/
def statementFault (d : Driver) (f : Failure) : Fault :=
  if f.driverOwn || d == .withoutErrors then .statementFailed f.message
  else .refusedStatement f.message

/-- The parameters of a statement as the driver gets them; null stands for none. -/
def sentParameters (parameters : Datum) : Option (List Datum) :=
  if parameters.isNull then none else some (parameters.elements?.getD [])

def send (d : Driver) (link : Link) (sql : String) (parameters : Datum) : Action Unit := do
  emit (.statement link.number sql (sentParameters parameters))
  match (← get).server.failure with
  | some f => throw (statementFault d f)
  | none => return

def execute (sql : String) (parameters : Datum) : Action Unit := do
  let s ← get
  match s.access with
  | .direct =>
    emit (.statement s.generation sql none)
    match s.server.failure with
    | some f => throw (.executionFailed f.message)
    | none => return
  | .driver d =>
    let link ← ensureLink
    if !parameters.isNull then ofExcept (Connection.checkParameters sql parameters)
    emit .cursor
    timed wireLogger "crate.execute" sql ((Redaction.parameters? parameters).getD .null)
      (send d link sql parameters)

def handshake : Action Version := do
  let s ← get
  match s.access with
  | .direct =>
    emit (.handshake s.generation)
    ofExcept s.server.handshake.read
  | .driver _ =>
    let link ← ensureLink
    if link.silent then throw .noSuchOperation
    emit (.handshake link.number)
    ofExcept s.server.handshake.read

end SystemCatalog.Session
