import SystemCatalog.Fault
import SystemCatalog.Sorting.Gallop

/-!
# Merging runs

Two sorted runs that lie side by side become one.  Rows that are in their place already stay there;
of what is left, the shorter run is kept aside, and the merge starts from its end of the other run.
A merge goes row by row until one run wins often in a row, and then leaps over many rows at once for
as long as the leaps are long.
-/

namespace SystemCatalog.Sorting

variable {α ε : Type}

/-- Whether a row of the other run goes ahead of a row of the kept run.  The lesser row goes first
from the front and the greater one from the back; of equal rows, it is the kept one. -/
def Side.wins (side : Side) (before : α → α → Except ε Bool) (other kept : α) : Except ε Bool :=
  match side with
  | front => before other kept
  | back => before kept other

inductive Pace where
  /-- Row by row: the other run, or else the kept one, has won a number of times in a row. -/
  | walk (other : Bool) (streak : Nat)
  /-- With the second leap of a round, after one over a number of rows. -/
  | leap (first : Nat)
  /-- As the longest leap of the last round says. -/
  | pause (longest : Nat)

/-- A step of a merge: rows of one run, the kept one or else the other, and then a row of the other
one of the two.  Later steps leap once a run has won as often in a row as the patience says. -/
structure Step where
  fromKept : Bool
  count : Nat
  pace : Pace
  patience : Nat

/-- The number of rows that a leap has to cover for another one to be worth its while. -/
def longLeap : Nat := 7

def walk (side : Side) (before : α → α → Except ε Bool) (t o : α) (lastOther : Bool)
    (streak patience : Nat) : Except ε Step := do
  let other ← side.wins before o t
  let streak := if other == lastOther then streak + 1 else 1
  return { fromKept := other, count := 0, pace := .walk other streak, patience }

/-- A step over all rows of one run that go ahead of the first row of the other one. -/
def leap (side : Side) (before : α → α → Except ε Bool) (kept other : List α) (t o : α)
    (fromKept : Bool) (next : Nat → Pace) (patience : Nat) : Except ε Step := do
  let count ←
    if fromKept then gallop side (fun row => (!·) <$> side.wins before o row) kept
    else gallop side (fun row => side.wins before row t) other
  return { fromKept, count, pace := next count, patience }

/-- The next step of a merge of two runs that start with `t` and `o`.  A round has a leap over rows
of the left run and then one over rows of the right run.  Rounds that follow each other make the
merge readier to leap, and the end of the last one makes it less ready. -/
def step (side : Side) (before : α → α → Except ε Bool) (pace : Pace) (patience : Nat)
    (kept other : List α) (t o : α) : Except ε Step :=
  let round := leap side before kept other t o (side == .front) .leap
  match pace with
  | .walk lastOther streak =>
    if patience ≤ streak then round patience
    else walk side before t o lastOther streak patience
  | .leap first =>
    leap side before kept other t o (side == .back) (fun count => .pause (max first count)) patience
  | .pause longest =>
    if longLeap ≤ longest then round (max 1 (patience - 1))
    else walk side before t o true 0 (patience + 1)

/-- The rows of two runs from the given end on, and the patience after merging them.  Once a single
row of the kept run is left, it is the last one. -/
def interleave (side : Side) (before : α → α → Except ε Bool) (pace : Pace) (patience : Nat)
    (kept other : List α) : Except ε (List α × Nat) :=
  match kept, other with
  | kept, [] => .ok (kept, patience)
  | [], other => .ok (other, patience)
  | [t], other => .ok (other ++ [t], patience)
  | t :: u :: kept, o :: other => do
    let s ← step side before pace patience (t :: u :: kept) (o :: other) t o
    if s.fromKept then
      let (rest, patience) ← interleave side before s.pace s.patience
        ((t :: u :: kept).drop s.count) other
      return ((t :: u :: kept).take s.count ++ o :: rest, patience)
    else
      let (rest, patience) ← interleave side before s.pace s.patience
        (u :: kept) ((o :: other).drop s.count)
      return ((o :: other).take s.count ++ t :: rest, patience)
termination_by kept.length + other.length
decreasing_by all_goals simp only [List.length_drop, List.length_cons]; omega

/-- The merge of two runs of which the other one's first row from the given end on goes ahead. -/
def mergeFrom (side : Side) (before : α → α → Except ε Bool) (patience : Nat)
    (kept other : List α) : Except ε (List α × Nat) :=
  match other with
  | [] => .ok (kept, patience)
  | o :: other => do
    let (rest, patience) ← interleave side before (.walk true 0) patience kept other
    return (o :: rest, patience)

/-- The merge of two runs of which the first row of the right one and the last row of the left one
have to move. -/
def mergeBetween (before : α → α → Except ε Bool) (patience : Nat) (left right : List α) :
    Except ε (List α × Nat) := do
  if left.length ≤ right.length then mergeFrom .front before patience left right
  else
    let (rows, patience) ← mergeFrom .back before patience right.reverse left.reverse
    return (rows.reverse, patience)

def mergeRuns (before : α → α → Except ε Bool) (patience : Nat) (left right : List α) :
    Except ε (List α × Nat) :=
  match right with
  | [] => .ok (left, patience)
  | first :: _ => do
    let lead ← gallop .front (fun row => (!·) <$> before first row) left
    let kept := left.drop lead
    match kept.getLast? with
    | none => return (left ++ right, patience)
    | some last =>
      let trail ← gallop .back (fun row => (!·) <$> before row last) right.reverse
      let (right, tail) := right.splitAt (right.length - trail)
      let (rows, patience) ← mergeBetween before patience kept right
      return (left.take lead ++ rows ++ tail, patience)

theorem interleave_perm {side : Side} {before : α → α → Except ε Bool} {pace : Pace}
    {patience : Nat} {kept other : List α} {result : List α × Nat}
    (h : interleave side before pace patience kept other = .ok result) :
    result.1.Perm (kept ++ other) := by
  fun_induction interleave side before pace patience kept other generalizing result with
  | case1 | case2 =>
    cases h
    simp
  | case3 =>
    cases h
    exact List.perm_append_comm
  | case4 pace patience t u kept o other ih₁ ih₂ =>
    obtain ⟨s, -, h⟩ := bind_eq_ok h
    split at h
    · obtain ⟨rest, hr, h⟩ := bind_eq_ok h
      cases h
      refine (((ih₁ s hr).cons o).append_left _).trans ?_
      refine (List.Perm.append_left _ List.perm_middle.symm).trans (.of_eq ?_)
      rw [← List.append_assoc, List.take_append_drop]
    · obtain ⟨rest, hr, h⟩ := bind_eq_ok h
      cases h
      refine (((ih₂ s hr).cons t).append_left _).trans ?_
      have swapped : ((o :: other).drop s.count ++ (o :: other).take s.count).Perm (o :: other) :=
        List.perm_append_comm.trans (.of_eq (List.take_append_drop ..))
      refine List.perm_append_comm.trans ?_
      simpa using swapped.append_left (t :: u :: kept)

theorem mergeFrom_perm {side : Side} {before : α → α → Except ε Bool} {patience : Nat}
    {kept other : List α} {result : List α × Nat}
    (h : mergeFrom side before patience kept other = .ok result) :
    result.1.Perm (kept ++ other) := by
  cases other with
  | nil =>
    cases h
    simp
  | cons o other =>
    obtain ⟨rest, hr, h⟩ := bind_eq_ok h
    cases h
    exact ((interleave_perm hr).cons o).trans List.perm_middle.symm

theorem mergeBetween_perm {before : α → α → Except ε Bool} {patience : Nat} {left right : List α}
    {result : List α × Nat} (h : mergeBetween before patience left right = .ok result) :
    result.1.Perm (left ++ right) := by
  unfold mergeBetween at h
  split at h
  · exact mergeFrom_perm h
  · obtain ⟨rows, hr, h⟩ := bind_eq_ok h
    cases h
    refine (List.reverse_perm _).trans ((mergeFrom_perm hr).trans ?_)
    exact ((List.reverse_perm _).append (List.reverse_perm _)).trans List.perm_append_comm

theorem mergeRuns_perm {before : α → α → Except ε Bool} {patience : Nat} {left right : List α}
    {result : List α × Nat} (h : mergeRuns before patience left right = .ok result) :
    result.1.Perm (left ++ right) := by
  cases right with
  | nil =>
    cases h
    simp
  | cons first rest =>
    obtain ⟨lead, -, h⟩ := bind_eq_ok h
    dsimp only at h
    split at h
    · cases h
      exact .refl _
    · obtain ⟨trail, -, h⟩ := bind_eq_ok h
      obtain ⟨rows, hr, h⟩ := bind_eq_ok h
      cases h
      refine (((mergeBetween_perm hr).append_left _).append_right _).trans (.of_eq ?_)
      simp only [List.splitAt_eq, List.append_assoc, List.take_append_drop]
      rw [← List.append_assoc, List.take_append_drop]

end SystemCatalog.Sorting
