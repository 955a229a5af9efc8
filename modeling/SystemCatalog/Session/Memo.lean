import SystemCatalog.Session.Wire

/-!
# Remembered constants

Versions and limits are read once and remembered while the connection lasts.  What is remembered is
dropped as soon as a call finds that another connection has been opened; a call that fails leaves
nothing to remember.
-/

namespace SystemCatalog.Session

open Catalog (RawRow)
open Journal (Level)
open Session.Action

def generationMessage (old new : Nat) : String :=
  "Connection generation changed (" ++ toString old ++ " -> " ++ toString new ++
    "); dropping cached catalog constants."

def checkGeneration : Action Unit := do
  let s ← get
  if s.generation ≠ s.memo.generation then
    report "engine.context" Level.info (generationMessage s.memo.generation s.generation)
    modify fun s => { s with memo := { generation := s.generation } }

def forget : Action Unit :=
  modify fun s => { s with memo := { generation := s.memo.generation } }

/-- The remembered value, or the computed one, which is remembered from then on. -/
def remembered {α : Type} (find : Memo → Option α) (keep : Memo → α → Memo)
    (compute : Action α) : Action α := do
  checkGeneration
  match find (← get).memo with
  | some value => return value
  | none =>
    let value ← compute
    modify fun s => { s with memo := keep s.memo value }
    return value

def isBare : RawRow → Bool
  | .absent => true
  | .cells values => values.isEmpty
  | .mapping entries => entries.isEmpty

def firstValue : RawRow → Datum
  | .cells (d :: _) => d
  | .mapping ((_, d) :: _) => d
  | _ => .null

def probedVersion (row : RawRow) : Except Fault Version :=
  if isBare row then .error .noVersionRow
  else
    let value := firstValue row
    if value.isNull then .error .nullVersion
    else
      match Version.ofText value.plain with
      | .ok v => .ok v
      | .error _ => .error (.badVersion value)

def probe : Action Version := do
  let row ← timed "engine.version" "engine.version_probe" versionProbe .null do
    execute versionProbe .null
    return (← get).server.probe
  let version ← ofExcept (probedVersion row)
  report "engine.version" Level.info ("Detected engine version " ++ version.text)
  return version

def engineVersion : Action Version :=
  remembered Memo.engine (fun memo version => { memo with engine := some version }) probe

def serverVersion : Action Version :=
  remembered Memo.server (fun memo version => { memo with server := some version }) handshake

/-- The cell at the front of a row: the first one, or the one under the key zero. -/
def frontCell : RawRow → Except Fault Datum
  | .cells (d :: _) => .ok d
  | .mapping entries =>
    match entries.find? fun e => Datum.same e.1 (.int 0) with
    | some (_, d) => .ok d
    | none => .error (.missingKey (.int 0))
  | _ => .error .outOfRange

def constantOfRow (c : Constant) (row : RawRow) : Except Fault Int := do
  if isBare row then throw (.missingConstant c)
  let value ← frontCell row
  if value.isNull then throw (.missingConstant c)
  match value.whole with
  | .ok n => return n
  | .error .wholeOfInfinity => throw .wholeOfInfinity
  | .error _ => throw (.badConstant c value)

def readConstant (c : Constant) : Action Int := do
  let row ← timed "engine.context" "engine.system_row" c.query .null do
    execute c.query .null
    return (← get).server.constantRow c
  ofExcept (constantOfRow c row)

def Memo.constant (memo : Memo) : Constant → Option Int
  | .nameWidth => memo.nameWidth
  | .indexKeys => memo.indexKeys

def Memo.keepConstant (memo : Memo) (c : Constant) (n : Int) : Memo :=
  match c with
  | .nameWidth => { memo with nameWidth := some n }
  | .indexKeys => { memo with indexKeys := some n }

def constant (c : Constant) : Action Int :=
  remembered (·.constant c) (·.keepConstant c) (readConstant c)

/-- The greatest length of a name, which leaves room for the zero at its end. -/
def maxNameLength : Action Int := do return (← constant .nameWidth) - 1

def maxIndexKeys : Action Int := constant .indexKeys

end SystemCatalog.Session
