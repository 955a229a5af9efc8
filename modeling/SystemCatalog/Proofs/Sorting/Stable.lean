import Mathlib.Order.Lattice

/-!
# Stable sorting

A sorted list is determined by the order of its keys and by the order of the items with equal keys,
which a stable sort leaves as it was: `eq_mergeSort_of_filter`.
-/

namespace SystemCatalog.Sorting

variable {κ α : Type} [LinearOrder κ] {key : α → κ}

/-- Two ordered lists that agree in the items of each key are the same. -/
theorem eq_of_pairwise_of_filter {first second : List α}
    (ordered : first.Pairwise (key · ≤ key ·)) (ordered' : second.Pairwise (key · ≤ key ·))
    (same : ∀ x, first.filter (key · = key x) = second.filter (key · = key x)) :
    first = second := by
  induction first generalizing second with
  | nil =>
    cases second with
    | nil => rfl
    | cons b second => simpa using same b
  | cons a first ih =>
    cases second with
    | nil => simpa using same a
    | cons b second =>
      rw [List.pairwise_cons] at ordered ordered'
      have equal : key a = key b := by
        have there : a ∈ (b :: second).filter (key · = key a) := by simp [← same]
        have here : b ∈ (a :: first).filter (key · = key b) := by simp [same]
        rcases List.mem_cons.mp (List.mem_filter.mp there).1 with rfl | there
        · rfl
        rcases List.mem_cons.mp (List.mem_filter.mp here).1 with rfl | here
        · rfl
        exact le_antisymm (ordered.1 b here) (ordered'.1 a there)
      obtain ⟨rfl, -⟩ : a = b ∧ _ := by simpa [equal] using same a
      congr 1
      apply ih ordered.2 ordered'.2
      intro x
      have whole := same x
      by_cases own : key a = key x
      · simpa [own] using whole
      · simpa [own] using whole

theorem pairwise_mergeSort (items : List α) :
    (items.mergeSort fun x y => key x ≤ key y).Pairwise (key · ≤ key ·) := by
  have ordered : (items.mergeSort fun x y => key x ≤ key y).Pairwise fun x y =>
      decide (key x ≤ key y) = true :=
    List.pairwise_mergeSort (by simpa using fun x y z => le_trans)
      (by simpa using fun x y => le_total _ _) items
  simpa using ordered

/-- Sorting leaves items with equal keys in their order. -/
theorem filter_mergeSort (items : List α) (k : κ) :
    (items.mergeSort fun x y => key x ≤ key y).filter (key · = k) = items.filter (key · = k) := by
  have ordered : (items.filter (key · = k)).Pairwise fun x y => decide (key x ≤ key y) = true := by
    rw [List.pairwise_filter]
    apply List.pairwise_of_forall
    intro x y first second
    simp only [decide_eq_true_eq] at first second ⊢
    rw [first, second]
  have kept : (items.filter (key · = k)).Sublist (items.mergeSort fun x y => key x ≤ key y) :=
    List.sublist_mergeSort (by simpa using fun x y z => le_trans)
      (by simpa using fun x y => le_total _ _) ordered List.filter_sublist
  have sublist := kept.filter fun x => decide (key x = k)
  simp only [List.filter_filter, Bool.and_self] at sublist
  have perm := List.mergeSort_perm items fun x y => decide (key x ≤ key y)
  exact (sublist.eq_of_length (perm.filter fun x => decide (key x = k)).length_eq.symm).symm

/-- A list is the sorted one if it is ordered and has the items of each key in their order. -/
theorem eq_mergeSort_of_filter {sorted items : List α} (ordered : sorted.Pairwise (key · ≤ key ·))
    (kept : ∀ x, sorted.filter (key · = key x) = items.filter (key · = key x)) :
    sorted = items.mergeSort fun x y => key x ≤ key y := by
  apply eq_of_pairwise_of_filter ordered (pairwise_mergeSort items)
  intro x
  rw [kept, filter_mergeSort]

end SystemCatalog.Sorting
