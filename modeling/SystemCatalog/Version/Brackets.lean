import SystemCatalog.Version.Reader
import SystemCatalog.Version.Sorting

/-!
# Version brackets

A table of thresholds cuts the versions into brackets: each reaches from its threshold up to the
next one, and the last has no end.  A bracket without a strategy selects nothing.
-/

namespace SystemCatalog.Version

/-- A table of strategies by version bracket, in ascending order of the thresholds. -/
structure Brackets (α : Type) where
  name : String
  rows : List (Version × Option α)

namespace Brackets

variable {α : Type}

def repeats : List Version → Bool
  | [] => false
  | v :: rest => rest.any v.same || repeats rest

/-- The table of the rows, which may come in any order: at least one, with distinct thresholds. -/
def ofRows (name : String) (rows : List (Given × Option α)) : Except Fault (Brackets α) := do
  if rows.isEmpty then throw (.emptyBrackets name)
  let resolved ← rows.mapM fun (given, strategy) => do return (← given.resolve, strategy)
  let rows ← sortRows resolved
  let thresholds := rows.map (·.1)
  if !thresholds.all fun v => v.parts.all Datum.isKey then throw .wrongKind
  if repeats thresholds then throw (.repeatedThreshold name)
  return { name, rows }

def thresholds (b : Brackets α) : List Version := b.rows.map (·.1)

/-- The strategy of the last row whose threshold the version reaches, or `chosen` if it reaches
none. -/
def selectFrom (v : Version) (chosen : Option α) :
    List (Version × Option α) → Except Fault (Option α)
  | [] => .ok chosen
  | (threshold, strategy) :: rest => do
    if ← v.atLeast threshold then selectFrom v strategy rest else .ok chosen

def select (b : Brackets α) (v : Version) : Except Fault α := do
  match ← selectFrom v none b.rows with
  | some strategy => return strategy
  | none => throw (.belowBrackets v.text b.name)

end Brackets

end SystemCatalog.Version
