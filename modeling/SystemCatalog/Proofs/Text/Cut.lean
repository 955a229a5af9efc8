import Mathlib.Data.List.DropRight
import SystemCatalog.Text.Blank
import SystemCatalog.Text.Cut

/-!
# Cut and stripped texts

No piece of a text holds the separator.  A text that is stripped keeps what stands between the
characters at its ends that are stripped, and ends with none of these.
-/

namespace SystemCatalog.Text

variable {c separator : Char} {s piece : List Char}

theorem not_mem_of_mem_splitOn (mem : piece ∈ splitOn separator s) : separator ∉ piece := by
  induction s generalizing piece with
  | nil =>
    obtain rfl := List.mem_singleton.mp mem
    exact List.not_mem_nil
  | cons c s ih =>
    rw [splitOn] at mem
    split at mem
    · rcases List.mem_cons.mp mem with rfl | mem
      · exact List.not_mem_nil
      · exact ih mem
    · next other =>
      split at mem
      · next first more eq =>
        rw [eq] at ih
        rcases List.mem_cons.mp mem with rfl | mem
        · rw [List.mem_cons, not_or]
          exact ⟨Ne.symm other, ih List.mem_cons_self⟩
        · exact ih (List.mem_cons_of_mem _ mem)
      · obtain rfl := List.mem_singleton.mp mem
        simpa using Ne.symm other

/-! ### Stripped texts -/

section Strip

variable {p : Char → Bool}

def strip (p : Char → Bool) (s : List Char) : List Char := (s.dropWhile p).rdropWhile p

theorem trim_eq_strip (s : List Char) : trim s = strip isBlank s := rfl

theorem stripChar_eq_strip (c : Char) (s : List Char) : stripChar c s = strip (· == c) s := rfl

theorem mem_of_mem_strip (mem : c ∈ strip p s) : c ∈ s :=
  (List.dropWhile_suffix p).subset ((List.rdropWhile_prefix p _).subset mem)

theorem dropWhile_eq_self (front : ∀ c ∈ s.head?, p c = false) : s.dropWhile p = s := by
  cases s with
  | nil => rfl
  | cons c s => exact List.dropWhile_cons_of_neg (by simpa using front)

theorem rdropWhile_eq_self (back : ∀ c ∈ s.getLast?, p c = false) : s.rdropWhile p = s := by
  refine List.rdropWhile_eq_self_iff.mpr fun some => ?_
  simpa using back _ (List.getLast?_eq_some_getLast some)

theorem strip_eq_self (front : ∀ c ∈ s.head?, p c = false) (back : ∀ c ∈ s.getLast?, p c = false) :
    strip p s = s := by
  rw [strip, dropWhile_eq_self front, rdropWhile_eq_self back]

theorem strip_wrapped (ends : p c = true) (front : ∀ c ∈ s.head?, p c = false)
    (back : ∀ c ∈ s.getLast?, p c = false) : strip p (c :: (s ++ [c])) = s := by
  rw [strip, List.dropWhile_cons_of_pos ends]
  cases s with
  | nil => rw [List.nil_append, List.dropWhile_cons_of_pos ends]; rfl
  | cons d s =>
    rw [dropWhile_eq_self (by simpa using front), List.rdropWhile_concat_pos _ _ _ ends,
      rdropWhile_eq_self back]

theorem getLast?_strip : ∀ c ∈ (strip p s).getLast?, p c = false := by
  intro c last
  obtain ⟨some, eq⟩ := List.mem_getLast?_eq_getLast last
  rw [eq, ← Bool.not_eq_true]
  exact List.rdropWhile_last_not p (s.dropWhile p) some

end Strip

theorem trim_enclosed {first last : Char} (front : isBlank first = false)
    (back : isBlank last = false) (s : List Char) :
    trim (first :: (s ++ [last])) = first :: (s ++ [last]) := by
  rw [trim_eq_strip]
  apply strip_eq_self
  · simpa using front
  · rw [← List.cons_append, List.getLast?_concat]
    simpa using back

/-- A text that is not blank keeps what follows it when it is trimmed, if that does not end with a
blank. -/
theorem trim_append {t : List Char} (some : ∃ c ∈ s, isBlank c = false)
    (back : ∀ c ∈ t.getLast?, isBlank c = false) (inhabited : t ≠ []) :
    ∃ front, trim (s ++ t) = front ++ t ∧ front ≠ [] := by
  have kept : s.dropWhile isBlank ≠ [] := by
    rw [Ne, List.dropWhile_eq_nil_iff]
    obtain ⟨c, mem, sign⟩ := some
    intro blank
    rw [blank c mem] at sign
    cases sign
  refine ⟨s.dropWhile isBlank, ?_, kept⟩
  rw [trim_eq_strip, strip, List.dropWhile_append, if_neg (by simpa using kept)]
  apply rdropWhile_eq_self
  rwa [List.getLast?_append_of_ne_nil _ inhabited]

theorem unwrap_enclosed (first last : Char) (s : List Char) :
    unwrap first last (first :: (s ++ [last])) = s := by
  have ends : (first :: (s ++ [last])).getLast? = some last := by
    rw [← List.cons_append, List.getLast?_concat]
  simp [unwrap, ends]

theorem beq_false_of_ne_some {o : Option Char} (other : o ≠ some c) :
    ∀ d ∈ o, (d == c) = false := by
  intro d eq
  rw [beq_eq_false_iff_ne]
  rintro rfl
  exact other eq

theorem stripChar_wrapped (front : s.head? ≠ some c) (back : s.getLast? ≠ some c) :
    stripChar c (c :: (s ++ [c])) = s :=
  @strip_wrapped c s (· == c) (beq_self_eq_true c) (beq_false_of_ne_some front)
    (beq_false_of_ne_some back)

theorem stripChar_of_not_mem (absent : c ∉ s) : stripChar c s = s := by
  rw [stripChar_eq_strip]
  exact strip_eq_self (beq_false_of_ne_some fun first => absent (List.mem_of_head? first))
    (beq_false_of_ne_some fun last => absent (List.mem_of_getLast? last))

theorem getLast?_stripChar : (stripChar c s).getLast? ≠ some c := by
  intro last
  rw [stripChar_eq_strip] at last
  have other := getLast?_strip c last
  rw [beq_self_eq_true] at other
  cases other

end SystemCatalog.Text
