import Mathlib.Data.List.Forall2
import SystemCatalog.Proofs.Acl.Array

/-!
# Separating commas

Which commas of an array separate its entries can be told from places in the text alone: those with
an even number of turning quotes before them.  The pieces of the array are the texts between these
commas, and its tokens are the pieces without the quotes around them: `tokens_separated`.
-/

namespace SystemCatalog.Acl

variable {text rest after : List Char} {quoted : Bool} {previous c : Char} {k stop : Nat}
  {places : List Nat}

/-- A double quote that opens or closes quotes: the one right behind the opening brace, and all
others without a backslash before them. -/
def Turns (text : List Char) (i : Nat) : Prop :=
  1 ≤ i ∧ text[i]? = some '"' ∧ (i = 1 ∨ text[i - 1]? ≠ some '\\')

instance (text : List Char) : DecidablePred (Turns text) := fun i =>
  inferInstanceAs (Decidable (1 ≤ i ∧ text[i]? = some '"' ∧ (i = 1 ∨ text[i - 1]? ≠ some '\\')))

def turnsBefore (text : List Char) (i : Nat) : Nat := (List.range i).countP (Turns text ·)

/-- A comma that stands outside of quotes, as an even number of turns before it tells. -/
def Separates (text : List Char) (i : Nat) : Prop :=
  1 ≤ i ∧ text[i]? = some ',' ∧ turnsBefore text i % 2 = 0

instance (text : List Char) : DecidablePred (Separates text) := fun i =>
  inferInstanceAs (Decidable (1 ≤ i ∧ text[i]? = some ',' ∧ turnsBefore text i % 2 = 0))

def separators (text : List Char) : List Nat := (List.range text.length).filter (Separates text ·)

/-- The parts of a text from one place up to another one, cut at the places between them; the
characters at these are in no part. -/
def cut (text : List Char) (start : Nat) : List Nat → Nat → List (List Char)
  | [], stop => [(text.take stop).drop start]
  | place :: places, stop => (text.take place).drop start :: cut text (place + 1) places stop

/-- What is left of a piece: the text between the double quotes around it, or all of it. -/
inductive Stripped : List Char → List Char → Prop
  | wrapped (inner : List Char) : Stripped ('"' :: (inner ++ ['"'])) inner
  | bare (piece : List Char) (unwrapped : ∀ inner, piece ≠ '"' :: (inner ++ ['"'])) :
    Stripped piece piece

/-! ### Reading on from a place -/

/-- What is known when the text has been read up to a place: whether quotes are open there, and
whether the character before it is a backslash that counts. -/
structure StandsAt (text : List Char) (quoted : Bool) (previous : Char) (k : Nat) : Prop where
  behind : 1 ≤ k
  quoted_iff : quoted = true ↔ turnsBefore text k % 2 = 1
  escapes_iff : previous = '\\' ↔ k ≠ 1 ∧ text[k - 1]? = some '\\'

theorem not_turns_zero (text : List Char) : ¬ Turns text 0 := fun turns =>
  absurd turns.1 (by decide)

theorem turnsBefore_succ (text : List Char) (i : Nat) :
    turnsBefore text (i + 1) = turnsBefore text i + if Turns text i then 1 else 0 := by
  rw [turnsBefore, List.range_succ, List.countP_append, List.countP_singleton, turnsBefore]
  simp only [decide_eq_true_eq]

namespace StandsAt

theorem start (text : List Char) : StandsAt text false ' ' 1 where
  behind := Nat.le_refl 1
  quoted_iff := by
    rw [turnsBefore_succ, if_neg (not_turns_zero text)]
    simp [turnsBefore]
  escapes_iff := by simp

variable (stands : StandsAt text quoted previous k) (here : text[k]? = some c)

include stands here

theorem turns_iff : (c = '"' ∧ previous ≠ '\\') ↔ Turns text k := by
  have first := stands.behind
  rw [Turns, here, Option.some.injEq, Ne, stands.escapes_iff]
  constructor
  · rintro ⟨quote, unescaped⟩
    refine ⟨first, quote, ?_⟩
    by_cases start : k = 1
    · exact Or.inl start
    · exact Or.inr fun sign => unescaped ⟨start, sign⟩
  · rintro ⟨-, quote, free⟩
    exact ⟨quote, fun escaped => free.elim escaped.1 fun other => other escaped.2⟩

theorem separates_iff : (c = ',' ∧ quoted = false) ↔ Separates text k := by
  have outside : quoted = false ↔ turnsBefore text k % 2 = 0 := by
    rw [← Bool.not_eq_true, stands.quoted_iff]
    omega
  rw [Separates, here, Option.some.injEq, outside]
  exact ⟨fun comma => ⟨stands.behind, comma⟩, fun separates => separates.2⟩

theorem step : StandsAt text (if c = '"' ∧ previous ≠ '\\' then !quoted else quoted) c (k + 1) where
  behind := by omega
  quoted_iff := by
    have parity := stands.quoted_iff
    rw [turnsBefore_succ]
    by_cases turns : Turns text k
    · rw [if_pos ((stands.turns_iff here).mpr turns), if_pos turns, Bool.not_eq_true',
        ← Bool.not_eq_true, parity]
      omega
    · rw [if_neg fun sign => turns ((stands.turns_iff here).mp sign), if_neg turns]
      exact parity
  escapes_iff := by
    have first := stands.behind
    rw [Nat.add_sub_cancel, here, Option.some.injEq]
    exact ⟨fun sign => ⟨by omega, sign⟩, fun escapes => escapes.2⟩

end StandsAt

/-! ### Pieces between places -/

theorem drop_take_cons (here : text[k]? = some c) (inside : k < stop) :
    (text.take stop).drop k = c :: (text.take stop).drop (k + 1) := by
  have held : (text.take stop)[k]? = some c := by rw [List.getElem?_take_of_lt inside, here]
  obtain ⟨bound, eq⟩ := List.getElem?_eq_some_iff.mp held
  rw [List.drop_eq_getElem_cons bound, eq]

theorem extend_cut (here : text[k]? = some c) (behind : ∀ place ∈ places, k < place)
    (inside : k < stop) :
    extend [c] (cut text (k + 1) places stop) = cut text k places stop := by
  cases places with
  | nil => rw [cut, cut, drop_take_cons here inside]; rfl
  | cons place places =>
    rw [cut, cut, drop_take_cons here (behind place List.mem_cons_self)]
    rfl

theorem pieces_eq_cut (stands : StandsAt text quoted previous k)
    (unread : text.drop k = rest ++ after) :
    pieces quoted previous rest =
      cut text k ((List.range' k rest.length).filter (Separates text ·)) (k + rest.length) := by
  -- The text stays and the place moves on, so `StandsAt` has to hold again at the next place.
  induction rest generalizing quoted previous k with
  | nil => simp [pieces, cut]
  | cons c rest ih =>
    have here : text[k]? = some c := by
      rw [← List.head?_drop, unread]
      rfl
    have later : text.drop (k + 1) = rest ++ after := by
      rw [← List.tail_drop, unread]
      rfl
    have next := ih (stands.step here) later
    have length : k + (c :: rest).length = k + 1 + rest.length := by
      rw [List.length_cons]
      omega
    rw [length, List.length_cons, List.range'_succ]
    by_cases separates : c = ',' ∧ quoted = false
    · have counted := (stands.separates_iff here).mp separates
      obtain ⟨rfl, rfl⟩ := separates
      rw [if_neg (by simp)] at next
      rw [List.filter_cons_of_pos (by simpa using counted), cut, pieces_comma, next]
      simp
    · have passed : ¬ Separates text k := fun counted =>
        separates ((stands.separates_iff here).mpr counted)
      rw [List.filter_cons_of_neg (by simpa using passed), pieces_cons separates, next]
      apply extend_cut here
      · intro place mem
        have bounds := List.mem_range'_1.mp (List.mem_filter.mp mem).1
        omega
      · omega

theorem separators_braces (opening : Char) {closing : Char} (other : closing ≠ ',')
    (s : List Char) :
    separators (opening :: (s ++ [closing])) =
      (List.range' 1 s.length).filter (Separates (opening :: (s ++ [closing])) ·) := by
  have first : ¬ Separates (opening :: (s ++ [closing])) 0 := fun separates =>
    absurd separates.1 (by decide)
  have last : ¬ Separates (opening :: (s ++ [closing])) (1 + s.length) := by
    rintro ⟨-, comma, -⟩
    rw [Nat.add_comm, List.getElem?_cons_succ, List.getElem?_concat_length] at comma
    exact other (Option.some.inj comma)
  have length : (opening :: (s ++ [closing])).length = s.length + 1 + 1 := by simp
  rw [separators, length, List.range_eq_range', List.range'_succ,
    List.filter_cons_of_neg (by simpa using first), List.range'_concat, List.filter_append]
  simp [last]

theorem rawEntries_eq_cut (opening : Char) {closing : Char} (other : closing ≠ ',')
    (s : List Char) :
    rawEntries (opening :: (s ++ [closing])) =
      cut (opening :: (s ++ [closing])) 1 (separators (opening :: (s ++ [closing])))
        (1 + s.length) := by
  rw [rawEntries_braces opening other, separators_braces opening other]
  exact @pieces_eq_cut _ s [closing] _ _ _ (.start _) rfl

/-! ### Tokens -/

theorem stripped_unwrap (piece : List Char) : Stripped piece (Text.unwrap '"' '"' piece) := by
  unfold Text.unwrap
  split
  · next wraps =>
    obtain ⟨long, first, last⟩ := wraps
    obtain ⟨inner, rfl⟩ := List.head?_eq_some_iff.mp first
    have some : inner ≠ [] := by
      rintro rfl
      simp at long
    rw [List.getLast?_cons_of_ne_nil some] at last
    obtain ⟨init, rfl⟩ := List.getLast?_eq_some_iff.mp last
    rw [List.tail_cons, List.dropLast_concat]
    exact .wrapped init
  · next other =>
    apply Stripped.bare
    rintro inner rfl
    apply other
    rw [← List.cons_append, List.getLast?_concat]
    simp

theorem exists_braces (long : 2 ≤ text.length) :
    ∃ opening s closing, text = opening :: (s ++ [closing]) := by
  obtain ⟨opening, rest, rfl⟩ := List.exists_cons_of_length_pos (show 0 < text.length by omega)
  have some : rest ≠ [] := by
    rintro rfl
    simp at long
  exact ⟨opening, rest.dropLast, rest.getLast some, by rw [List.dropLast_concat_getLast]⟩

theorem tokens_short {text : String} (short : text.toList.length ≤ 1) :
    tokens (some text) = [] := by
  rw [tokens, Option.getD_some]
  generalize text.toList = list at short
  cases list with
  | nil => rfl
  | cons opening rest =>
    obtain rfl : rest = [] := List.length_eq_zero_iff.mp (by rw [List.length_cons] at short; omega)
    rfl

theorem tokens_stripped {text : String} (some : text.toList ≠ []) :
    ∃ stripped, List.Forall₂ Stripped (rawEntries text.toList) stripped ∧
      tokens (.some text) = (stripped.filter (· ≠ [])).map String.ofList := by
  refine ⟨(rawEntries text.toList).map (Text.unwrap '"' '"'), ?_, ?_⟩
  · rw [List.forall₂_map_right_iff, List.forall₂_same]
    exact fun piece _ => stripped_unwrap piece
  · have inhabited : text.toList.isEmpty = false := by simpa using some
    rw [tokens, Option.getD_some, entries, inhabited, if_neg (by decide)]
    congr 1
    apply List.filter_congr
    intro piece _
    cases piece <;> simp

/-- A text of at most one character has no tokens.  In any other one that does not end with a comma,
the pieces are the parts of the text between its first and its last character that the separators
leave, with the commas between them they are all of it, and the tokens are the pieces without the
quotes around them, but for those that are empty then. -/
theorem tokens_separated (text : String) :
    (text.length ≤ 1 → tokens (some text) = []) ∧
    (2 ≤ text.length → text.toList.getLast? ≠ some ',' →
      rawEntries text.toList = cut text.toList 1 (separators text.toList) (text.length - 1) ∧
      List.intercalate [','] (rawEntries text.toList) = text.toList.tail.dropLast ∧
      ∃ stripped, List.Forall₂ Stripped (rawEntries text.toList) stripped ∧
        tokens (some text) = (stripped.filter (· ≠ [])).map String.ofList) := by
  rw [← String.length_toList]
  refine ⟨tokens_short, fun long last => ?_⟩
  obtain ⟨opening, s, closing, eq⟩ := exists_braces long
  have other : closing ≠ ',' := by
    rintro rfl
    rw [eq, ← List.cons_append, List.getLast?_concat] at last
    exact last rfl
  refine ⟨?_, ?_, tokens_stripped ?_⟩
  · have length : (opening :: (s ++ [closing])).length - 1 = 1 + s.length := by
      simp [Nat.add_comm]
    rw [eq, length]
    exact rawEntries_eq_cut opening other s
  · rw [eq, rawEntries_braces opening other, intercalate_pieces, List.tail_cons,
      List.dropLast_concat]
  · rw [eq]
    exact List.cons_ne_nil _ _

/-- A text with commas inside and outside of quotes, quotes behind a backslash and empty pieces, and
with quotes that are open at its end. -/
def scattered : String := "\x7b\"a,b\",c\\\",d,,\"\",\"e,\x7d"

theorem tokens_separated_scattered :
    2 ≤ scattered.length ∧ scattered.toList.getLast? ≠ some ',' ∧
    rawEntries scattered.toList =
      ["\"a,b\"", "c\\\"", "d", "", "\"\"", "\"e,"].map String.toList ∧
    tokens (some scattered) = ["a,b", "c\\\"", "d", "\"e,"] := by
  have long : 2 ≤ scattered.length := by decide
  have last : scattered.toList.getLast? ≠ some ',' := by decide
  have places : separators scattered.toList = [6, 10, 12, 13, 16] := by decide
  obtain ⟨parts, -⟩ := (tokens_separated scattered).2 long last
  rw [places] at parts
  exact ⟨long, last, parts.trans (by decide), by decide⟩

end SystemCatalog.Acl
