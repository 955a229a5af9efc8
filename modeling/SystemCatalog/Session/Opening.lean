import SystemCatalog.Session.Peer

/-!
# Opened connections

Which connections the driver opens in the course of a session, and what one step may do to the
connection that the session holds.
-/

namespace SystemCatalog.Session

def Event.isConnecting : Event → Bool
  | connecting .. => true
  | _ => false

/-- Whether a step works on the connection itself, or is something that happens to it.  Steps look
at the connection when they begin, so one that drops in the course of a step drops after it. -/
def Step.isWire : Step → Bool
  | .alter _ | .drop | .connect _ | .close | .execute .. | .handshake => true
  | _ => false

namespace State

def accepted (s : State) : Nat :=
  if s.server.refusing then 0 else s.events.countP Event.isConnecting

def openings (trace : List State) : Nat := trace.foldl (fun n s => n + s.accepted) 0

def lastPeer? (trace : List State) : Option Server :=
  (trace.reverse.find? fun s => s.accepted ≠ 0).map (·.server)

/-- Whether the session is the same but for what is seen of the last step. -/
def Same (s t : State) : Prop := t.cleared = s.cleared

end State

/-- What a step does to the connection that a session holds, which comes from `s` to `t` by it. -/
structure Orderly (s : State) (step : Step) (outcome : Except Fault Reply) (t : State) : Prop where
  /-- A statement is sent on the last connection, which is open when the step begins unless the
  step opens it. -/
  sent : ∀ n sql parameters, .statement n sql parameters ∈ t.events →
    n = t.generation ∧ (n ≤ s.generation →
      ∃ link, s.link = some link ∧ link.number = n ∧ link.dropped = false)
  /-- A statement and a handshake, whether they fail or not, leave the session as it was or replace
  a connection that has dropped; they fail if they cannot replace it. -/
  kept : (step = .handshake ∨ ∃ sql parameters, step = .execute sql parameters) →
    (t.accepted = 0 ∧ s.Same t ∧ (s.Dropped → ∃ f, outcome = .error f)) ∨
      (t.accepted = 1 ∧ ∃ link, s.link = some link ∧ link.dropped = true ∧
        (s.opened link.config).Same t)
  /-- Connecting opens one connection, or fails and leaves the session as it was. -/
  connected : ∀ request, step = .connect request →
    (∃ f, outcome = .error f ∧ t.accepted = 0 ∧ s.Same t) ∨
      (outcome = .ok .nothing ∧ t.accepted = 1 ∧ ∃ config, (s.opened config).Same t)
  /-- After closing, even if it fails, nothing is held, and statements fail. -/
  closed : step = .close → State.Same { s with link := none } t ∧
    ∀ sql parameters, t.perform (Step.execute sql parameters).action =
      (.error .notConnected, t.cleared)
  /-- Without a connection statements fail and nothing but connecting gives one. -/
  unheld : s.link = none →
    (∀ sql parameters, step = .execute sql parameters →
      outcome = .error .notConnected ∧ t = s.cleared) ∧
    (t.link ≠ none → ∃ request, step = .connect request)

end SystemCatalog.Session
