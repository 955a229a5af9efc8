/-!
# Cutting texts

Texts are cut at single characters: at every one, at the first one or at the last one.
-/

namespace SystemCatalog.Text

def splitOn (separator : Char) : List Char → List (List Char)
  | [] => [[]]
  | c :: rest =>
    if c = separator then [] :: splitOn separator rest
    else
      match splitOn separator rest with
      | piece :: pieces => (c :: piece) :: pieces
      | [] => [[c]]

def splitFirst? (separator : Char) : List Char → Option (List Char × List Char)
  | [] => none
  | c :: rest =>
    if c = separator then some ([], rest)
    else (splitFirst? separator rest).map fun (before, after) => (c :: before, after)

def splitLast? (separator : Char) : List Char → Option (List Char × List Char)
  | [] => none
  | c :: rest =>
    match splitLast? separator rest with
    | some (before, after) => some (c :: before, after)
    | none => if c = separator then some ([], rest) else none

def stripChar (c : Char) (s : List Char) : List Char :=
  ((s.dropWhile (· == c)).reverse.dropWhile (· == c)).reverse

/-- The text without its first and its last character, if these are the two given ones. -/
def unwrap (first last : Char) (s : List Char) : List Char :=
  if 2 ≤ s.length ∧ s.head? = some first ∧ s.getLast? = some last then s.tail.dropLast else s

theorem length_le_unwrap (first last : Char) (s : List Char) :
    s.length ≤ (unwrap first last s).length + 2 := by
  unfold unwrap
  split
  · simp only [List.length_dropLast, List.length_tail]
    omega
  · omega

theorem eq_append_of_splitLast? {separator : Char} {s before after : List Char}
    (h : splitLast? separator s = some (before, after)) :
    s = before ++ separator :: after := by
  induction s generalizing before with
  | nil => simp [splitLast?] at h
  | cons c rest ih =>
    simp only [splitLast?] at h
    split at h
    · next b a hr =>
      simp only [Option.some.injEq, Prod.mk.injEq] at h
      obtain ⟨rfl, rfl⟩ := h
      simp [ih hr]
    · split at h
      · next hc =>
        simp only [Option.some.injEq, Prod.mk.injEq] at h
        obtain ⟨rfl, rfl⟩ := h
        simp [hc]
      · simp at h

theorem splitLast?_eq_none_iff {separator : Char} {s : List Char} :
    splitLast? separator s = none ↔ separator ∉ s := by
  induction s with
  | nil => simp [splitLast?]
  | cons c rest ih =>
    simp only [splitLast?]
    split
    · next b a hr =>
      have := eq_append_of_splitLast? hr
      simp [this]
    · next hr =>
      have absent := ih.mp hr
      by_cases h : c = separator
      · simp [h]
      · simp [h, absent, Ne.symm h]

theorem splitLast?_append {separator : Char} {after : List Char} (absent : separator ∉ after)
    (before : List Char) :
    splitLast? separator (before ++ separator :: after) = some (before, after) := by
  induction before with
  | nil => simp [splitLast?, splitLast?_eq_none_iff.mpr absent]
  | cons c before ih => simp [splitLast?, ih]

theorem not_mem_of_splitLast? {separator : Char} {s before after : List Char}
    (h : splitLast? separator s = some (before, after)) : separator ∉ after := by
  induction s generalizing before with
  | nil => simp [splitLast?] at h
  | cons c rest ih =>
    simp only [splitLast?] at h
    cases later : splitLast? separator rest with
    | some found =>
      obtain ⟨b, a⟩ := found
      rw [later] at h
      simp only [Option.some.injEq, Prod.mk.injEq] at h
      obtain ⟨rfl, rfl⟩ := h
      exact ih later
    | none =>
      rw [later] at h
      simp only [Option.ite_none_right_eq_some, Option.some.injEq, Prod.mk.injEq] at h
      obtain ⟨-, rfl, rfl⟩ := h
      exact splitLast?_eq_none_iff.mp later

theorem splitFirst?_append {separator : Char} {before : List Char} (absent : separator ∉ before)
    (after : List Char) :
    splitFirst? separator (before ++ separator :: after) = some (before, after) := by
  induction before with
  | nil => simp [splitFirst?]
  | cons c before ih =>
    rw [List.mem_cons, not_or] at absent
    simp [splitFirst?, Ne.symm absent.1, ih absent.2]

theorem splitFirst?_eq_none {separator : Char} {s : List Char} (absent : separator ∉ s) :
    splitFirst? separator s = none := by
  induction s with
  | nil => rfl
  | cons c s ih =>
    rw [List.mem_cons, not_or] at absent
    simp [splitFirst?, Ne.symm absent.1, ih absent.2]

theorem eq_append_of_splitFirst? {separator : Char} {s before after : List Char}
    (h : splitFirst? separator s = some (before, after)) :
    s = before ++ separator :: after ∧ separator ∉ before := by
  by_cases mem : separator ∈ s
  · obtain ⟨first, rest, rfl, absent⟩ := List.eq_append_cons_of_mem mem
    rw [splitFirst?_append absent] at h
    cases h
    exact ⟨rfl, absent⟩
  · rw [splitFirst?_eq_none mem] at h
    cases h

theorem splitOn_of_not_mem {separator : Char} {s : List Char} (absent : separator ∉ s) :
    splitOn separator s = [s] := by
  induction s with
  | nil => rfl
  | cons c s ih =>
    rw [List.mem_cons, not_or] at absent
    simp [splitOn, Ne.symm absent.1, ih absent.2]

theorem splitOn_append {separator : Char} {piece : List Char} (absent : separator ∉ piece)
    (rest : List Char) :
    splitOn separator (piece ++ separator :: rest) = piece :: splitOn separator rest := by
  induction piece with
  | nil => simp [splitOn]
  | cons c piece ih =>
    rw [List.mem_cons, not_or] at absent
    simp [splitOn, Ne.symm absent.1, ih absent.2]

theorem mem_splitOn {separator c : Char} {s : List Char} (mem : c ∈ s) :
    c = separator ∨ ∃ piece ∈ splitOn separator s, c ∈ piece := by
  by_cases some : separator ∈ s
  · obtain ⟨before, after, rfl, absent⟩ := List.eq_append_cons_of_mem some
    rw [splitOn_append absent]
    rcases List.mem_append.mp mem with first | later
    · exact Or.inr ⟨before, List.mem_cons_self, first⟩
    · rcases List.mem_cons.mp later with sign | later
      · exact Or.inl sign
      · exact (mem_splitOn later).imp_right fun ⟨piece, listed, inside⟩ =>
          ⟨piece, List.mem_cons_of_mem _ listed, inside⟩
  · rw [splitOn_of_not_mem some]
    exact Or.inr ⟨s, List.mem_cons_self, mem⟩
termination_by s.length
decreasing_by
  rw [‹s = before ++ separator :: after›, List.length_append, List.length_cons]
  omega

theorem exists_of_splitOn {separator : Char} {s : List Char}
    (pieces : 3 ≤ (splitOn separator s).length) :
    ∃ before after, s = before ++ separator :: after ∧ separator ∈ after := by
  have some : separator ∈ s := by
    apply Decidable.byContradiction
    intro absent
    rw [splitOn_of_not_mem absent] at pieces
    simp at pieces
  obtain ⟨before, after, rfl, first⟩ := List.eq_append_cons_of_mem some
  refine ⟨before, after, rfl, ?_⟩
  apply Decidable.byContradiction
  intro absent
  rw [splitOn_append first, splitOn_of_not_mem absent] at pieces
  simp at pieces

/-- Pieces that are joined at a character that is in none of them come apart again. -/
theorem splitOn_intercalate {separator : Char} {pieces : List (List Char)} (some : pieces ≠ [])
    (absent : ∀ piece ∈ pieces, separator ∉ piece) :
    splitOn separator (List.intercalate [separator] pieces) = pieces := by
  induction pieces with
  | nil => exact absurd rfl some
  | cons piece more ih =>
    cases more with
    | nil => simpa [List.intercalate] using splitOn_of_not_mem (absent piece List.mem_cons_self)
    | cons next more =>
      have tail := ih (by simp) fun other mem => absent other (List.mem_cons_of_mem _ mem)
      have joined : List.intercalate [separator] (piece :: next :: more) =
          piece ++ separator :: List.intercalate [separator] (next :: more) := by
        simp [List.intercalate]
      rw [joined, splitOn_append (absent piece List.mem_cons_self), tail]

end SystemCatalog.Text
