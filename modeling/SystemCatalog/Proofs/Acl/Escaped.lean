import SystemCatalog.Proofs.Acl.Printed
import SystemCatalog.Proofs.Text.Cut

/-!
# Printed elements without their quotes

An element of a printed array that is only trimmed and stripped of double quotes is not always what
has been printed: `stripped_printed_iff` says when it is.
-/

namespace SystemCatalog.Acl.Element

open Text (stripChar trim)

variable {isSpace : Char → Bool} {element : List Char}

theorem escaped_cons (c : Char) (element : List Char) :
    escaped (c :: element) = escapeChar c ++ escaped element := List.flatMap_cons

theorem length_le_escaped (element : List Char) : element.length ≤ (escaped element).length := by
  induction element with
  | nil => exact Nat.le_refl _
  | cons c element ih =>
    have positive : 1 ≤ (escapeChar c).length := by
      unfold escapeChar
      split <;> simp
    rw [escaped_cons, List.length_append, List.length_cons]
    omega

theorem escaped_eq_self_iff : escaped element = element ↔ '"' ∉ element ∧ '\\' ∉ element := by
  induction element with
  | nil => exact iff_of_true rfl (by simp)
  | cons c element ih =>
    rw [escaped_cons, escapeChar]
    split
    · next sign =>
      refine iff_of_false (fun same => ?_) ?_
      · have longer := length_le_escaped element
        have lengths := congrArg List.length same
        simp only [List.length_append, List.length_cons, List.length_nil] at lengths
        omega
      · rcases sign with rfl | rfl
        · exact fun absent => absent.1 List.mem_cons_self
        · exact fun absent => absent.2 List.mem_cons_self
    · next plain =>
      rw [not_or] at plain
      rw [List.singleton_append, List.cons.injEq, ih]
      simp [Ne.symm plain.1, Ne.symm plain.2]

theorem head?_escaped : (escaped element).head? ≠ some '"' := by
  cases element with
  | nil => simp [escaped]
  | cons c element =>
    rw [escaped_cons, escapeChar]
    split
    · simp
    · next plain => simpa using fun quote => plain (Or.inl quote)

theorem getLast?_escaped (element : List Char) :
    (escaped element).getLast? = element.getLast? := by
  induction element with
  | nil => rfl
  | cons c element ih =>
    have ends : (escapeChar c).getLast? = some c := by
      unfold escapeChar
      split <;> rfl
    rw [escaped_cons, List.getLast?_append, ih, ends, List.getLast?_cons]
    cases element.getLast? <;> rfl

theorem mem_of_mem_escaped {c : Char} (mem : c ∈ escaped element) : c ∈ element ∨ c = '\\' := by
  obtain ⟨d, held, mem⟩ := List.mem_flatMap.mp mem
  unfold escapeChar at mem
  split at mem
  · rcases List.mem_cons.mp mem with rfl | mem
    · exact Or.inr rfl
    · obtain rfl := List.mem_singleton.mp mem
      exact Or.inl held
  · obtain rfl := List.mem_singleton.mp mem
    exact Or.inl held

theorem comma_not_mem_printed (absent : ',' ∉ element) : ',' ∉ printed isSpace element := by
  unfold printed
  split
  · intro mem
    simp only [List.mem_cons, List.mem_append, List.not_mem_nil, or_false] at mem
    rcases mem with other | mem | other
    · exact absurd other (by decide)
    · exact (mem_of_mem_escaped mem).elim absent (by decide)
    · exact absurd other (by decide)
  · exact absent

/-! ### Elements read back -/

/-- Stripping takes the quotes around an escaped element, and gives the element back if nothing in
it was escaped. -/
theorem stripChar_wrapped_iff :
    stripChar '"' ('"' :: (escaped element ++ ['"'])) = element ↔
      '"' ∉ element ∧ '\\' ∉ element := by
  constructor
  · intro same
    -- What is stripped ends with no quote, so neither does the element.
    have back : element.getLast? ≠ some '"' := same ▸ Text.getLast?_stripChar
    rw [Text.stripChar_wrapped head?_escaped (by rwa [getLast?_escaped])] at same
    exact escaped_eq_self_iff.mp same
  · intro plain
    have back : element.getLast? ≠ some '"' := fun last => plain.1 (List.mem_of_getLast? last)
    rw [Text.stripChar_wrapped head?_escaped (by rwa [getLast?_escaped])]
    exact escaped_eq_self_iff.mpr plain

theorem stripped_printed_iff :
    stripChar '"' (trim (printed isSpace element)) = element ↔
      '"' ∉ element ∧ '\\' ∉ element ∧
        (isWrapped isSpace element = false → trim element = element) := by
  unfold printed
  cases wrapped : isWrapped isSpace element with
  | true =>
    rw [if_pos rfl, Text.trim_enclosed (by decide) (by decide), stripChar_wrapped_iff]
    simp
  | false =>
    have quote : '"' ∉ element := not_mem_of_bare wrapped (by decide)
    have backslash : '\\' ∉ element := not_mem_of_bare wrapped (by decide)
    have trimmed : '"' ∉ trim element := fun mem => quote (Text.mem_of_mem_strip mem)
    rw [if_neg (by simp), Text.stripChar_of_not_mem trimmed]
    simp [quote, backslash]

end SystemCatalog.Acl.Element
