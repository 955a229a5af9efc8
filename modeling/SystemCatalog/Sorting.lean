import SystemCatalog.Sorting.Merge
import SystemCatalog.Sorting.Run

/-!
# Sorting

A stable sort by comparisons that can fail and need not be consistent, so that it says exactly which
comparisons are made.  The sequence is cut into runs, and neighbouring runs are merged in an order
that keeps the merges balanced: each boundary between two runs has a depth in the tree that halves
the sequence again and again, and deeper boundaries go first.
-/

namespace SystemCatalog.Sorting

variable {α ε : Type}

/-- The least length of a run in a sequence of a given size: all of a short sequence, else the
leading six bits of the size, rounded up. -/
def leastRun (size : Nat) : Nat :=
  let shift := size.log2 - 5
  if size < 64 then size else (size + Nat.pow 2 shift - 1) / Nat.pow 2 shift

/-- The depth of a boundary in a sequence of a given size: the first binary place at which the
middles of the two runs differ as fractions of the sequence.  The middles are given twice. -/
def depth (size left right : Nat) : Nat :=
  let differs (k : Nat) : Bool := Nat.pow 2 k * left / size != Nat.pow 2 k * right / size
  ((List.range size).find? differs).getD size + 1

/-- Runs that wait to be merged, the last one first and each with the depth of the boundary ahead
of it, and the patience of the next merge. -/
structure Waiting (α : Type) where
  runs : List (List α × Nat) := []
  patience : Nat := longLeap

namespace Waiting

def size (w : Waiting α) : Nat := w.runs.foldl (fun size run => size + run.1.length) 0

/-- Merges runs at the end for as long as the boundary between them is deeper than a new one. -/
def collapse (before : α → α → Except ε Bool) (depth patience : Nat) :
    List (List α × Nat) → Except ε (Waiting α)
  | last :: ahead :: rest => do
    if depth < last.2 then
      let (rows, patience) ← mergeRuns before patience ahead.1 last.1
      collapse before depth patience ((rows, ahead.2) :: rest)
    else return { runs := last :: ahead :: rest, patience }
  | runs => .ok { runs, patience }
termination_by runs => runs.length

def push (before : α → α → Except ε Bool) (total : Nat) (w : Waiting α) (run : List α) :
    Except ε (Waiting α) :=
  match w.runs with
  | [] => .ok { w with runs := [(run, 0)] }
  | last :: _ => do
    let depth := depth total (2 * w.size - last.1.length) (2 * w.size + run.length)
    let w ← collapse before depth w.patience w.runs
    return { w with runs := (run, depth) :: w.runs }

/-- Merges all runs, of which the last one comes first; the last run waits if the one two places
ahead of it is shorter. -/
def finish (before : α → α → Except ε Bool) (patience : Nat) : List (List α) → Except ε (List α)
  | [] => .ok []
  | [rows] => .ok rows
  | [last, ahead] => return (← mergeRuns before patience ahead last).1
  | last :: ahead :: further :: rest => do
    if further.length < last.length then
      let (rows, patience) ← mergeRuns before patience further ahead
      finish before patience (last :: rows :: rest)
    else
      let (rows, patience) ← mergeRuns before patience ahead last
      finish before patience (rows :: further :: rest)
termination_by runs => runs.length

theorem collapse_perm {before : α → α → Except ε Bool} {depth patience : Nat}
    {runs : List (List α × Nat)} {result : Waiting α}
    (h : collapse before depth patience runs = .ok result) :
    (result.runs.map (·.1)).flatten.Perm (runs.map (·.1)).flatten := by
  fun_induction collapse before depth patience runs generalizing result with
  | case1 patience last ahead rest hd ih =>
    obtain ⟨rows, hr, h⟩ := bind_eq_ok h
    refine (ih _ _ h).trans ?_
    simp only [List.map_cons, List.flatten_cons, ← List.append_assoc]
    exact ((mergeRuns_perm hr).trans List.perm_append_comm).append_right _
  | case2 | case3 =>
    cases h
    exact .refl _

theorem push_perm {before : α → α → Except ε Bool} {total : Nat} {w result : Waiting α}
    {run : List α} (h : push before total w run = .ok result) :
    (result.runs.map (·.1)).flatten.Perm (run ++ (w.runs.map (·.1)).flatten) := by
  unfold push at h
  split at h
  · rename_i hw
    cases h
    simp [hw]
  · obtain ⟨collapsed, hc, h⟩ := bind_eq_ok h
    cases h
    exact (collapse_perm hc).append_left run

theorem finish_perm {before : α → α → Except ε Bool} {patience : Nat} {runs : List (List α)}
    {result : List α} (h : finish before patience runs = .ok result) :
    result.Perm runs.flatten := by
  fun_induction finish before patience runs generalizing result with
  | case1 | case2 =>
    cases h
    simp
  | case3 patience last ahead =>
    obtain ⟨merged, hm, h⟩ := bind_eq_ok h
    cases h
    simpa using (mergeRuns_perm hm).trans List.perm_append_comm
  | case4 patience last ahead further rest hlt ih =>
    obtain ⟨merged, hm, h⟩ := bind_eq_ok h
    refine (ih _ _ h).trans (List.Perm.append_left last ?_)
    simp only [List.flatten_cons, ← List.append_assoc]
    exact ((mergeRuns_perm hm).trans List.perm_append_comm).append_right _
  | case5 patience last ahead further rest hlt ih =>
    obtain ⟨merged, hm, h⟩ := bind_eq_ok h
    refine (ih _ _ h).trans ?_
    simp only [List.flatten_cons, ← List.append_assoc]
    exact (((mergeRuns_perm hm).trans List.perm_append_comm).append_right _).append_right _

theorem foldlM_push_perm {before : α → α → Except ε Bool} {total : Nat} {runs : List (List α)}
    {w result : Waiting α} (h : runs.foldlM (push before total) w = .ok result) :
    (result.runs.map (·.1)).flatten.Perm ((w.runs.map (·.1)).flatten ++ runs.flatten) := by
  induction runs generalizing w with
  | nil =>
    cases h
    simp
  | cons run rest ih =>
    obtain ⟨next, hn, h⟩ := bind_eq_ok h
    refine (ih h).trans (((push_perm hn).append_right _).trans ?_)
    simp only [List.flatten_cons, ← List.append_assoc]
    exact List.perm_append_comm.append_right _

end Waiting

/-- The rows in ascending order; rows of which neither comes before the other keep their order. -/
def sort (before : α → α → Except ε Bool) (rows : List α) : Except ε (List α) := do
  let runs ← runs before (leastRun rows.length) rows
  let waiting ← runs.foldlM (Waiting.push before rows.length) {}
  Waiting.finish before waiting.patience (waiting.runs.map (·.1))

theorem sort_perm {before : α → α → Except ε Bool} {rows result : List α}
    (h : sort before rows = .ok result) : result.Perm rows := by
  obtain ⟨runs, hr, h⟩ := bind_eq_ok h
  obtain ⟨waiting, hw, h⟩ := bind_eq_ok h
  exact (Waiting.finish_perm h).trans ((Waiting.foldlM_push_perm hw).trans (runs_perm hr))

end SystemCatalog.Sorting
