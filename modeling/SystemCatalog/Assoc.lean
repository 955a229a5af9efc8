/-!
# Association lists

Lists of keys with their values, in the order in which the keys were first bound.
-/

namespace SystemCatalog.Assoc

variable {κ β : Type} [BEq κ]

/-- The list with the value of a key changed, or bound at the end if the key is new. -/
def update (key : κ) (change : Option β → β) : List (κ × β) → List (κ × β)
  | [] => [(key, change none)]
  | (k, v) :: rest =>
    if k == key then (k, change (some v)) :: rest else (k, v) :: update key change rest

def set (entries : List (κ × β)) (key : κ) (value : β) : List (κ × β) :=
  update key (fun _ => value) entries

/-- The list of the pairs, of which a repeated key keeps its first place and its last value. -/
def ofList (pairs : List (κ × β)) : List (κ × β) :=
  pairs.foldl (fun entries pair => set entries pair.1 pair.2) []

def erase (entries : List (κ × β)) (key : κ) : List (κ × β) :=
  entries.filter fun entry => !(entry.1 == key)

theorem update_of_not_mem [LawfulBEq κ] {key : κ} {change : Option β → β} {entries : List (κ × β)}
    (new : key ∉ entries.map (·.1)) : update key change entries = entries ++ [(key, change none)] := by
  induction entries with
  | nil => rfl
  | cons entry rest ih =>
    obtain ⟨k, v⟩ := entry
    simp only [List.map_cons, List.mem_cons, not_or] at new
    have other : (k == key) = false := beq_eq_false_iff_ne.mpr (Ne.symm new.1)
    simp [update, other, ih new.2]

theorem foldl_set_of_nodup [LawfulBEq κ] (pairs entries : List (κ × β))
    (distinct : ((entries ++ pairs).map (·.1)).Nodup) :
    pairs.foldl (fun entries pair => set entries pair.1 pair.2) entries = entries ++ pairs := by
  induction pairs generalizing entries with
  | nil => simp
  | cons pair pairs ih =>
    have new : pair.1 ∉ entries.map (·.1) := by
      rw [List.map_append, List.nodup_append] at distinct
      exact fun mem => distinct.2.2 _ mem _ (by simp) rfl
    have added : set entries pair.1 pair.2 = entries ++ [pair] := update_of_not_mem new
    rw [List.append_cons] at distinct ⊢
    rw [List.foldl_cons, added, ih _ distinct]

theorem ofList_of_nodup [LawfulBEq κ] {pairs : List (κ × β)} (distinct : (pairs.map (·.1)).Nodup) :
    ofList pairs = pairs :=
  foldl_set_of_nodup pairs [] distinct

theorem lookup_of_mem [LawfulBEq κ] {entries : List (κ × β)} {key : κ} {value : β}
    (distinct : (entries.map (·.1)).Nodup) (mem : (key, value) ∈ entries) :
    entries.lookup key = some value := by
  induction entries with
  | nil => cases mem
  | cons entry rest ih =>
    obtain ⟨k, v⟩ := entry
    rw [List.map_cons, List.nodup_cons] at distinct
    rcases List.mem_cons.mp mem with same | later
    · cases same
      simp
    · have other : (key == k) = false := by
        rw [beq_eq_false_iff_ne]
        rintro rfl
        exact distinct.1 (List.mem_map.mpr ⟨_, later, rfl⟩)
      rw [List.lookup_cons, other]
      exact ih distinct.2 later

end SystemCatalog.Assoc
