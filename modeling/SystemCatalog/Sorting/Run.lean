import SystemCatalog.Fault

/-!
# Runs

A sequence is cut into sorted runs.  A run is as long as the rows at its place happen to be in
order, ascending or descending; a short one takes further rows, each of which finds its place by
halving.
-/

namespace SystemCatalog.Sorting

variable {α ε : Type}

/-- The number of rows that go on a run whose last row is given: each comes before the one ahead of
it, if the run is descending, and no row does if it is ascending. -/
def streak (before : α → α → Except ε Bool) (descending : Bool) (last : α) :
    List α → Except ε Nat
  | [] => .ok 0
  | row :: rest => do
    if (← before row last) == descending then
      return (← streak before descending row rest) + 1
    else return 0

/-- The sorted rows with one more, behind those that it does not come before. -/
def insert (before : α → α → Except ε Bool) (row : α) (rows : List α) : Except ε (List α) :=
  match _ : rows.drop (rows.length / 2) with
  | [] => .ok [row]
  | pivot :: later => do
    if ← before row pivot then
      return (← insert before row (rows.take (rows.length / 2))) ++ pivot :: later
    else return rows.take (rows.length / 2) ++ pivot :: (← insert before row later)
termination_by rows.length
decreasing_by
  all_goals
    have := congrArg List.length ‹_ = pivot :: later›
    simp only [List.length_drop, List.length_cons, List.length_take] at *
    omega

/-- The rows of a sequence with a first row as sorted runs of at least the given length, except for
the last one. -/
def runs (before : α → α → Except ε Bool) (least : Nat) : List α → Except ε (List (List α))
  | [] => .ok []
  | [row] => .ok [[row]]
  | first :: second :: rest => do
    let descending ← before second first
    let count ← streak before descending second rest
    let run := first :: second :: rest.take count
    let ordered := if descending then run.reverse else run
    let extent := max count (least - 2)
    let missing := (rest.take extent).drop count
    let run ← missing.foldlM (fun run row => insert before row run) ordered
    return run :: (← runs before least (rest.drop extent))
termination_by rows => rows.length
decreasing_by
  simp only [List.length_drop, List.length_cons]
  omega

theorem insert_perm {before : α → α → Except ε Bool} {row : α} {rows result : List α}
    (h : insert before row rows = .ok result) : result.Perm (row :: rows) := by
  fun_induction insert before row rows generalizing result with
  | case1 rows hd =>
    have := congrArg List.length hd
    simp only [List.length_drop, List.length_nil] at this
    have : rows = [] := List.eq_nil_of_length_eq_zero (by omega)
    cases h
    simp [this]
  | case2 rows pivot later hd ih₁ ih₂ =>
    have split : rows = rows.take (rows.length / 2) ++ pivot :: later := by
      rw [← hd, List.take_append_drop]
    obtain ⟨before, -, h⟩ := bind_eq_ok h
    split at h
    · obtain ⟨front, hf, h⟩ := bind_eq_ok h
      cases h
      refine ((ih₁ hf).append_right _).trans ?_
      conv => rhs; rw [split]
      simp
    · obtain ⟨back, hb, h⟩ := bind_eq_ok h
      cases h
      refine (((ih₂ hb).cons pivot).append_left _).trans ?_
      conv => rhs; rw [split]
      refine (List.Perm.append_left _ (List.Perm.swap row pivot later)).trans ?_
      exact List.perm_middle

theorem foldlM_insert_perm {before : α → α → Except ε Bool} {rows sorted result : List α}
    (h : rows.foldlM (fun sorted row => insert before row sorted) sorted = .ok result) :
    result.Perm (sorted ++ rows) := by
  induction rows generalizing sorted with
  | nil =>
    cases h
    simp
  | cons row rest ih =>
    obtain ⟨next, hi, h⟩ := bind_eq_ok h
    refine (ih h).trans (((insert_perm hi).append_right rest).trans ?_)
    exact List.perm_middle.symm

theorem runs_perm {before : α → α → Except ε Bool} {least : Nat} {rows : List α}
    {result : List (List α)} (h : runs before least rows = .ok result) :
    result.flatten.Perm rows := by
  fun_induction runs before least rows generalizing result with
  | case1 =>
    cases h
    simp
  | case2 row =>
    cases h
    simp
  | case3 first second rest ih =>
    obtain ⟨descending, -, h⟩ := bind_eq_ok h
    obtain ⟨count, -, h⟩ := bind_eq_ok h
    obtain ⟨run, hr, h⟩ := bind_eq_ok h
    obtain ⟨more, hm, h⟩ := bind_eq_ok h
    cases h
    have ordered := (foldlM_insert_perm hr).trans (List.Perm.append_right _ (by
      split
      · exact List.reverse_perm _
      · exact .refl (first :: second :: rest.take count)))
    refine (ordered.append (ih _ hm)).trans (.of_eq ?_)
    have whole : rest.take count ++ (rest.take (max count (least - 2))).drop count =
        rest.take (max count (least - 2)) := by
      have := List.take_append_drop count (rest.take (max count (least - 2)))
      rwa [List.take_take, Nat.min_eq_left (Nat.le_max_left ..)] at this
    simp [whole, List.take_append_drop]

end SystemCatalog.Sorting
