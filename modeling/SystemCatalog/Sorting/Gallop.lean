/-!
# Galloping search

How many rows at one end of a sequence pass a test, if those that do stand together there.  The
search first looks further and further away from that end and then halves the range that is left,
so that it is quick where few rows pass.
-/

namespace SystemCatalog.Sorting

variable {α ε : Type}

/-- The end of a sequence that its rows are counted from. -/
inductive Side where
  | front
  | back
  deriving DecidableEq

/-- The position in the middle of a range, counted from an end; of two middles it is the one nearer
to the back. -/
def Side.middle (side : Side) (low high : Nat) : Nat :=
  match side with
  | front => low + (high - low) / 2
  | back => low + (high - low - 1) / 2

/-- The range that holds the first failure from `high` on, if all before `low` pass: what is looked
at lies each time about twice as far away. -/
def stride (test : Nat → Except ε Bool) (size low high : Nat) : Except ε (Nat × Nat) :=
  if high < size then do
    if ← test high then stride test size (high + 1) (2 * high + 1) else return (low, high)
  else return (low, size)
termination_by size - high

def halve (side : Side) (test : Nat → Except ε Bool) (low high : Nat) : Except ε Nat :=
  if low < high then do
    let middle := side.middle low high
    if ← test middle then halve side test (middle + 1) high else halve side test low middle
  else return high
termination_by high - low
decreasing_by all_goals cases side <;> simp only [Side.middle] <;> omega

/-- The number of rows that pass; the rows come in their order from the given end on. -/
def gallop (side : Side) (passes : α → Except ε Bool) (rows : List α) : Except ε Nat := do
  let test (i : Nat) : Except ε Bool :=
    match rows[i]? with
    | some row => passes row
    | none => .ok false
  let (low, high) ← stride test rows.length 0 0
  halve side test low high

end SystemCatalog.Sorting
