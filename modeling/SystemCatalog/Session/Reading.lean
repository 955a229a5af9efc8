import SystemCatalog.Session.Run

/-!
# Readings

A remembered value is read from the server at some time, on some connection.  A reading is what
reached the server then, together with the value in its answer.
-/

namespace SystemCatalog.Session

namespace Server

def probed (server : Server) : List Datum :=
  match server.probe with
  | .absent => []
  | .cells values => values
  | .mapping entries => entries.map (·.2)

/-- The version of the engine that the server reports: the first of the values, read as text. -/
def version? (server : Server) : Option Version := do
  let value ← server.probed.head?
  (Version.ofText value.plain).toOption

end Server

inductive Call where
  | engineVersion
  | serverVersion
  | limit (c : Constant)
  deriving DecidableEq, Repr

namespace Call

def step : Call → Step
  | engineVersion => .engineVersion
  | serverVersion => .serverVersion
  | limit .nameWidth => .maxNameLength
  | limit .indexKeys => .maxIndexKeys

/-- The reply to the call for the value of a constant: a name leaves room for the zero at its
end. -/
def limitReply : Constant → Int → Reply
  | .nameWidth, n => .number (n - 1)
  | .indexKeys, n => .number n

def stored (memo : Memo) : Call → Option Reply
  | engineVersion => memo.engine.map .version
  | serverVersion => memo.server.map .version
  | limit c => (memo.constant c).map (limitReply c)

/-- The reply in a server's answer to an event, if the call reads its value so and the server
answers on the connection `n`. -/
def reading? (server : Server) (n : Nat) : Call → Event → Option Reply
  | engineVersion, .statement m sql none =>
    if m = n ∧ sql = versionProbe ∧ server.failure.isNone then
      server.version?.map .version
    else none
  | serverVersion, .handshake m =>
    if m = n then server.handshake.read.toOption.map .version else none
  | limit c, .statement m sql none =>
    if m = n ∧ sql = c.query ∧ server.failure.isNone then
      (constantOfRow c (server.constantRow c)).toOption.map (limitReply c)
    else none
  | _, _ => none

end Call

def Step.asks : Step → Call → Bool
  | .engineVersion, call | .lookup .., call => call = .engineVersion
  | .serverVersion, call | .isAtLeast _, call => call = .serverVersion
  | .decodeGrants array _, call | .tablePrivileges _ _ array _, call =>
    array.isNone && call = .serverVersion
  | .maxNameLength, call => call = .limit .nameWidth
  | .maxIndexKeys, call => call = .limit .indexKeys
  | _, _ => false

/-- Whether a step replaces direct access, which only a session without a driver can do. -/
def Step.isRenewal : Step → Bool
  | .renew => true
  | _ => false

/-- The session after a computation, whether it fails or not. -/
def Action.final {α : Type} (a : Action α) (s : State) : State :=
  match a s with
  | .ok _ t => t
  | .error _ t => t

namespace State

def cleared (s : State) : State := { s with events := [], records := [] }

/-- Whether the last step has read the reply to a call on the connection `n`. -/
def Read (s : State) (call : Call) (n : Nat) (reply : Reply) : Prop :=
  ∃ e ∈ s.events, call.reading? s.server n e = some reply

def after (s : State) : List Step → State
  | [] => s
  | step :: rest => (s.perform step.action).2.after rest

def trace (s : State) : List Step → List State
  | [] => []
  | step :: rest => (s.perform step.action).2 :: (s.perform step.action).2.trace rest

end State

end SystemCatalog.Session
