import Mathlib.Data.List.Induction
import Mathlib.Data.List.Nodup
import SystemCatalog.Assoc

/-!
# Grouped lists

Adding items to an association list one after the other groups them by their keys (`group_concat`),
and whoever goes through the groups finds the items of each key in their order
(`filter_flatMap_group`).
-/

namespace SystemCatalog.Assoc

variable {κ α β γ : Type} [BEq κ] [LawfulBEq κ]

/-- Each key once, in the order in which the keys first occur, with what is made of its items, which
keep their order. -/
def group (key : α → κ) (make : List α → β) (items : List α) : List (κ × β) :=
  (items.map key).eraseDups.map fun k => (k, make (items.filter (key · == k)))

/-! ### Keys -/

theorem eraseDups_concat (keys : List κ) (k : κ) :
    (keys ++ [k]).eraseDups = if k ∈ keys then keys.eraseDups else keys.eraseDups ++ [k] := by
  rw [List.eraseDups_append]
  split <;> simp [List.removeAll, List.eraseDups_cons, *]

theorem nodup_eraseDups (keys : List κ) : keys.eraseDups.Nodup := by
  induction keys using List.reverseRecOn with
  | nil => exact List.nodup_nil
  | append_singleton keys k ih =>
    rw [eraseDups_concat]
    split
    · exact ih
    · next new =>
      rw [List.nodup_append]
      refine ⟨ih, List.nodup_singleton k, ?_⟩
      rintro a mem b single rfl
      obtain rfl := List.mem_singleton.mp single
      exact new (List.mem_eraseDups.mp mem)

omit [LawfulBEq κ] in
theorem keys_group (key : α → κ) (make : List α → β) (items : List α) :
    (group key make items).map (·.1) = (items.map key).eraseDups := by
  simp [group, Function.comp_def]

theorem nodup_keys_group (key : α → κ) (make : List α → β) (items : List α) :
    ((group key make items).map (·.1)).Nodup := by
  rw [keys_group]
  exact nodup_eraseDups _

/-! ### Adding items -/

theorem update_map_keys {keys : List κ} (distinct : keys.Nodup) {key : κ} (mem : key ∈ keys)
    (change : Option β → β) (value : κ → β) :
    update key change (keys.map fun k => (k, value k)) =
      keys.map fun k => (k, if k == key then change (some (value k)) else value k) := by
  induction keys with
  | nil => cases mem
  | cons first rest ih =>
    rw [List.nodup_cons] at distinct
    by_cases same : first = key
    · subst same
      have others : ∀ k ∈ rest, (k == first) = false := fun k later => by
        rw [beq_eq_false_iff_ne]
        rintro rfl
        exact distinct.1 later
      simp only [List.map_cons, update, beq_self_eq_true, if_true]
      congr 1
      apply List.map_congr_left
      intro k later
      simp [others k later]
    · have later := (List.mem_cons.mp mem).resolve_left (Ne.symm same)
      simp [update, same, ih distinct.2 later]

theorem group_concat (key : α → κ) {make : List α → β} {change : Option β → β} {x : α}
    (first : change none = make [x])
    (further : ∀ items, change (some (make items)) = make (items ++ [x])) (items : List α) :
    group key make (items ++ [x]) = update (key x) change (group key make items) := by
  rw [group, List.map_append, List.map_singleton, eraseDups_concat]
  -- The group of a known key keeps its place, and that of a new one comes last.
  by_cases known : key x ∈ items.map key
  · rw [if_pos known, group, update_map_keys (nodup_eraseDups _) (List.mem_eraseDups.mpr known)]
    apply List.map_congr_left
    intro k _
    by_cases same : key x = k
    · simp [same, further]
    · simp [same, Ne.symm same]
  · have new : key x ∉ (group key make items).map (·.1) := by
      rw [keys_group]
      exact fun mem => known (List.mem_eraseDups.mp mem)
    rw [if_neg known, update_of_not_mem new, List.map_append, List.map_singleton, first]
    have alone : items.filter (key · == key x) = [] := by
      rw [List.filter_eq_nil_iff]
      intro y mem same
      exact known (List.mem_map.mpr ⟨y, mem, by simpa using same⟩)
    have others : ∀ k ∈ (items.map key).eraseDups, (key x == k) = false := fun k mem => by
      rw [beq_eq_false_iff_ne]
      rintro rfl
      exact known (List.mem_eraseDups.mp mem)
    congr 1
    · apply List.map_congr_left
      intro k mem
      simp [others k mem]
    · simp [alone]

/-! ### Going through groups -/

theorem filter_flatMap_of_new {entries : List (κ × β)} {k : κ} (new : k ∉ entries.map (·.1))
    {body : κ × β → List γ} {key : γ → κ} (own : ∀ entry, ∀ x ∈ body entry, key x = entry.1) :
    (entries.flatMap body).filter (key · == k) = [] := by
  rw [List.filter_eq_nil_iff]
  intro x mem same
  obtain ⟨entry, listed, inside⟩ := List.mem_flatMap.mp mem
  refine new (List.mem_map.mpr ⟨entry, listed, ?_⟩)
  rw [← own entry x inside]
  simpa using same

theorem filter_flatMap {entries : List (κ × β)} (distinct : (entries.map (·.1)).Nodup)
    {entry : κ × β} (mem : entry ∈ entries) {body : κ × β → List γ} {key : γ → κ}
    (own : ∀ entry, ∀ x ∈ body entry, key x = entry.1) :
    (entries.flatMap body).filter (key · == entry.1) = body entry := by
  induction entries with
  | nil => cases mem
  | cons first rest ih =>
    rw [List.map_cons, List.nodup_cons] at distinct
    rw [List.flatMap_cons, List.filter_append]
    rcases List.mem_cons.mp mem with rfl | later
    · have all : (body entry).filter (key · == entry.1) = body entry := by
        rw [List.filter_eq_self]
        intro x inside
        simp [own entry x inside]
      rw [all, filter_flatMap_of_new distinct.1 own, List.append_nil]
    · have none : (body first).filter (key · == entry.1) = [] := by
        rw [List.filter_eq_nil_iff]
        intro x inside same
        apply distinct.1
        rw [← own first x inside, eq_of_beq same]
        exact List.mem_map.mpr ⟨entry, later, rfl⟩
      rw [none, List.nil_append, ih distinct.2 later]

/-- Going through the groups, in whatever order, the items of each key come from its group. -/
theorem filter_flatMap_group {key : α → κ} {make : List α → β} {items : List α}
    {entries : List (κ × β)} (perm : entries.Perm (group key make items)) {body : κ × β → List γ}
    {own : γ → κ} (owned : ∀ entry, ∀ x ∈ body entry, own x = entry.1)
    (empty : ∀ k, body (k, make []) = []) (k : κ) :
    (entries.flatMap body).filter (own · == k) =
      body (k, make (items.filter (key · == k))) := by
  have keys := (perm.map (·.1)).nodup_iff.mpr (nodup_keys_group key make items)
  by_cases known : k ∈ items.map key
  · have mem : (k, make (items.filter (key · == k))) ∈ entries := by
      rw [perm.mem_iff, group]
      exact List.mem_map.mpr ⟨k, List.mem_eraseDups.mpr known, rfl⟩
    exact filter_flatMap keys mem owned
  · have new : k ∉ entries.map (·.1) := by
      rw [(perm.map (·.1)).mem_iff, keys_group, List.mem_eraseDups]
      exact known
    have none : items.filter (key · == k) = [] := by
      rw [List.filter_eq_nil_iff]
      intro x mem same
      exact known (List.mem_map.mpr ⟨x, mem, eq_of_beq same⟩)
    rw [filter_flatMap_of_new new owned, none, empty]

end SystemCatalog.Assoc
