import SystemCatalog.Sql.Token

/-!
# Reading statements piece by piece

`tokens?_append` reads a text before another one whenever the two do not run into each other, and
`tokens?_literal` reads a written literal as the text that it was written for.
-/

namespace SystemCatalog.Sql

def Neutral (c : Char) : Prop := c ≠ '\'' ∧ isWord c = false

instance (c : Char) : Decidable (Neutral c) := inferInstanceAs (Decidable (_ ∧ _))

/-- A character that does not change what stands in front of it. -/
def Plain (c : Char) : Prop := c ≠ '\'' ∧ isMark c = false

instance (c : Char) : Decidable (Plain c) := inferInstanceAs (Decidable (_ ∧ _))

theorem isWord_of_isMark {c : Char} (h : isMark c = true) : isWord c = true := by
  simp only [isMark, Bool.or_eq_true, beq_iff_eq] at h
  rcases h with rfl | rfl <;> rfl

theorem Neutral.plain {c : Char} (h : Neutral c) : Plain c := by
  refine ⟨h.1, ?_⟩
  rw [Bool.eq_false_iff]
  intro mark
  exact absurd (isWord_of_isMark mark) (by simp [h.2])

/-- Whether two texts are read one after the other as they are read alone. -/
def Apart (s t : List Char) : Prop :=
  (∀ c ∈ t.head?, Plain c) ∨ ∃ c ∈ s.getLast?, Neutral c

namespace Quoting

variable {q : Quoting}

theorem scan_append (place : Place) (s t : List Char) :
    q.scan place (s ++ t) =
      ((q.scan place s).1 ++ (q.scan (q.scan place s).2 t).1, (q.scan (q.scan place s).2 t).2) := by
  induction s generalizing place with
  | nil => rfl
  | cons c s ih => simp [scan, ih]

theorem step_plain {place : Place} {found : List Token} (ends : place.finish? = some found)
    {c : Char} (plain : Plain c) :
    q.step place c = (found ++ [.other c], .outside (isWord c)) := by
  obtain ⟨quote, mark⟩ := plain
  cases place with
  | outside word =>
    obtain rfl : [] = found := by simpa [Place.finish?] using ends
    simp [step, quote, mark]
  | marked letter =>
    obtain rfl : [.other letter] = found := by simpa [Place.finish?] using ends
    simp [step, quote]
  | closing value =>
    obtain rfl : [.literal value] = found := by simpa [Place.finish?] using ends
    simp [step, quote, mark]
  | inside value => simp [Place.finish?] at ends
  | escaped value => simp [Place.finish?] at ends

theorem step_neutral {place : Place} {c : Char} (neutral : Neutral c) {found : List Token}
    (ends : (q.step place c).2.finish? = some found) : (q.step place c).2 = .outside false := by
  cases place with
  | inside value =>
    exfalso
    revert ends
    simp only [step, if_neg neutral.1]
    split <;> simp [Place.finish?]
  | escaped value => simp [step, Place.finish?] at ends
  | outside word => rw [step_plain rfl neutral.plain, neutral.2]
  | marked letter => rw [step_plain rfl neutral.plain, neutral.2]
  | closing value => rw [step_plain rfl neutral.plain, neutral.2]

theorem scan_resume {place : Place} {found : List Token} (ends : place.finish? = some found)
    {t : List Char} (head : ∀ c ∈ t.head?, Plain c) :
    ((q.scan place t).2.finish?.map ((q.scan place t).1 ++ ·)) =
      (q.tokens? t).map (found ++ ·) := by
  cases t with
  | nil => simp [scan, tokens?, ends, show (Place.outside false).finish? = some [] from rfl]
  | cons c t =>
    have plain := head c (by simp)
    have fresh : q.step (.outside false) c = ([.other c], .outside (isWord c)) :=
      step_plain (show (Place.outside false).finish? = some [] from rfl) plain
    simp [scan, tokens?, step_plain ends plain, fresh, Option.map_map, Function.comp_def]

theorem scan_neutral {place : Place} {s : List Char} {c : Char} (last : c ∈ s.getLast?)
    (neutral : Neutral c) {found : List Token}
    (ends : (q.scan place s).2.finish? = some found) : (q.scan place s).2 = .outside false := by
  obtain ⟨front, rfl⟩ : ∃ front, s = front ++ [c] := by
    obtain ⟨front, eq⟩ := List.getLast?_eq_some_iff.mp (Option.mem_def.mp last)
    exact ⟨front, eq⟩
  rw [scan_append] at ends ⊢
  exact step_neutral neutral ends

theorem tokens?_append {s t : List Char} {found : List Token} (read : q.tokens? s = some found)
    (apart : Apart s t) : q.tokens? (s ++ t) = (q.tokens? t).map (found ++ ·) := by
  obtain ⟨rest, ends, rfl⟩ := Option.map_eq_some_iff.mp read
  have joined : q.tokens? (s ++ t) =
      ((q.scan (q.scan (.outside false) s).2 t).2.finish?.map
        ((q.scan (q.scan (.outside false) s).2 t).1 ++ ·)).map
          ((q.scan (.outside false) s).1 ++ ·) := by
    simp [tokens?, scan_append, Option.map_map, Function.comp_def]
  rcases apart with head | ⟨c, last, neutral⟩
  · rw [joined, scan_resume ends head, Option.map_map]
    simp [Function.comp_def]
  · have outside := scan_neutral last neutral ends
    rw [outside] at ends
    obtain rfl : [] = rest := by simpa [Place.finish?] using ends
    rw [joined, outside]
    simp [tokens?]

/-! ### Texts and literals -/

theorem step_text {place : Place} {found : List Token} (ends : place.finish? = some found)
    {c : Char} (quote : c ≠ '\'') :
    ∃ rest, (q.step place c).2.finish? = some rest ∧
      (q.step place c).1 ++ rest = found ++ [.other c] := by
  by_cases mark : isMark c = true
  · cases place with
    | outside word =>
      obtain rfl : [] = found := by simpa [Place.finish?] using ends
      cases word <;> simp [step, quote, mark, Place.finish?]
    | marked letter =>
      obtain rfl : [.other letter] = found := by simpa [Place.finish?] using ends
      simp [step, quote, Place.finish?]
    | closing value =>
      obtain rfl : [.literal value] = found := by simpa [Place.finish?] using ends
      simp [step, quote, mark, Place.finish?]
    | inside value => simp [Place.finish?] at ends
    | escaped value => simp [Place.finish?] at ends
  · exact ⟨[], by rw [step_plain ends ⟨quote, by simpa using mark⟩]; simp [Place.finish?]⟩

theorem scan_text {s : List Char} (quotes : '\'' ∉ s) {place : Place} {found : List Token}
    (ends : place.finish? = some found) :
    ∃ rest, (q.scan place s).2.finish? = some rest ∧
      (q.scan place s).1 ++ rest = found ++ s.map .other := by
  induction s generalizing place found with
  | nil => exact ⟨found, ends, by simp [scan]⟩
  | cons c s ih =>
    have quote : c ≠ '\'' := fun eq => quotes (by simp [eq])
    obtain ⟨middle, ends, tokens⟩ := step_text (q := q) ends quote
    obtain ⟨rest, last, more⟩ := ih (fun mem => quotes (List.mem_cons_of_mem _ mem)) ends
    refine ⟨rest, last, ?_⟩
    simp only [scan, List.append_assoc, more]
    rw [← List.append_assoc, tokens]
    simp

theorem tokens?_text {s : List Char} (quotes : '\'' ∉ s) :
    q.tokens? s = some (s.map .other) := by
  obtain ⟨rest, ends, tokens⟩ :=
    scan_text (q := q) quotes (show (Place.outside false).finish? = some [] from rfl)
  rw [tokens?]
  simpa [ends] using tokens

theorem scan_escapeChar (value : List Char) (c : Char) :
    q.scan (.inside value) (q.escapeChar c) = ([], .inside (value ++ [c])) := by
  unfold escapeChar
  split
  · next quote => subst quote; simp [scan, step]
  · next quote =>
    split
    · next both =>
      obtain ⟨rfl, rfl⟩ := both
      simp [scan, step]
    · next single => simp [scan, step, quote, single]

theorem scan_escapeChars (value s : List Char) :
    q.scan (.inside value) (q.escapeChars s) = ([], .inside (value ++ s)) := by
  induction s generalizing value with
  | nil => simp [escapeChars, scan]
  | cons c s ih =>
    have rest := ih (value ++ [c])
    rw [escapeChars] at rest ⊢
    rw [List.flatMap_cons, scan_append, scan_escapeChar, rest]
    simp

def literalChars (q : Quoting) (s : List Char) : List Char :=
  q.mark.toList ++ '\'' :: (q.escapeChars s ++ ['\''])

theorem scan_literal (s : List Char) :
    q.scan (.outside false) (q.literalChars s) = ([], .closing s) := by
  have body : q.scan (.inside []) (q.escapeChars s ++ ['\'']) = ([], .closing s) := by
    rw [scan_append, scan_escapeChars]
    simp [scan, step]
  cases q <;> simp [literalChars, mark, scan, step, isMark, body]

/-- A written literal is read as the text that it was written for, whatever that text is. -/
theorem tokens?_literal (s : List Char) : q.tokens? (q.literalChars s) = some [.literal s] := by
  simp [tokens?, scan_literal, Place.finish?]

theorem step_closing (value : List Char) {c : Char} (quote : c ≠ '\'') :
    q.step (.closing value) c =
      (.literal value :: (q.step (.outside false) c).1, (q.step (.outside false) c).2) := by
  by_cases mark : isMark c = true
  · simp [step, quote, mark]
  · simp [step, quote, mark]

theorem tokens?_literal_append (s : List Char) {t : List Char} (head : t.head? ≠ some '\'') :
    q.tokens? (q.literalChars s ++ t) = (q.tokens? t).map (.literal s :: ·) := by
  cases t with
  | nil =>
    rw [List.append_nil, tokens?_literal]
    rfl
  | cons c t =>
    have quote : c ≠ '\'' := fun eq => head (by rw [eq]; rfl)
    simp [tokens?, scan_append, scan_literal, scan, step_closing s quote, Option.map_map,
      Function.comp_def]

theorem literal_eq {s : String} (zero : '\x00' ∉ s.toList) :
    q.literal s = .ok (String.ofList (q.literalChars s.toList)) := by
  rw [literal, escape, if_neg (by simpa using zero)]
  cases q <;> simp [bind, Except.bind, pure, Except.pure, literalChars, mark, ← String.toList_inj]

end Quoting

end SystemCatalog.Sql
