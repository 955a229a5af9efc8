import SystemCatalog.Session.Opening

/-!
# Counting readings

How often the constants of a connection are read in the course of a session, and which calls for
them return.  A call that finds its connection dropped opens another one before it reads.
-/

namespace SystemCatalog.Session

/-- Whether a step makes a remembered call, or does something to the connection that calls use:
the memory itself is left to the calls. -/
def Step.isUse : Step → Bool
  | .alter _ | .drop | .connect _ | .close => true
  | .engineVersion | .serverVersion | .maxNameLength | .maxIndexKeys => true
  | _ => false

namespace State

/-- How often the last step has read the reply to a call on the connection `n`. -/
def reads (s : State) (call : Call) (n : Nat) : Nat :=
  s.events.countP fun e => (call.reading? s.server n e).isSome

def readings (trace : List State) (call : Call) (n : Nat) : Nat :=
  trace.foldl (fun k s => k + s.reads call n) 0

/-- One of some steps makes a call which returns: `n` connections have been opened when it begins,
and `m` when it returns. -/
def Returns (start : State) (steps : List Step) (call : Call) (n m : Nat) : Prop :=
  ∃ earlier later reply t, steps = earlier ++ call.step :: later ∧
    (start.after earlier).generation = n ∧
    (start.after earlier).perform call.step.action = (.ok reply, t) ∧ t.generation = m

/-- One of some steps makes a call which opens the connection `n` and returns on it. -/
def Opens (start : State) (steps : List Step) (call : Call) (n : Nat) : Prop :=
  ∃ m, m < n ∧ Returns start steps call m n

end State

end SystemCatalog.Session
