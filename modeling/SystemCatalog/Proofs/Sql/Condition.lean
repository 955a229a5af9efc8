import SystemCatalog.Proofs.Sql.Lexeme
import SystemCatalog.Sql.Condition

/-!
# Reading conditions clause by clause

A clause is a text that is read as one condition wherever a comparison may stand.  Clauses with `OR`
between them are read as a condition that holds of a row exactly if one of theirs does.
-/

namespace SystemCatalog.Sql

variable {q : Quoting}

/-! ### Truth -/

namespace Truth

theorem and_eq_true {a b : Truth} : a.and b = some true ↔ a = some true ∧ b = some true := by
  rcases a with _ | _ | _ <;> rcases b with _ | _ | _ <;> simp [and]

theorem or_eq_true {a b : Truth} : a.or b = some true ↔ a = some true ∨ b = some true := by
  rcases a with _ | _ | _ <;> rcases b with _ | _ | _ <;> simp [or]

theorem equal_text_eq_true {d : Datum} {s : String} (kind : d = .null ∨ ∃ t, d = .text t) :
    equal d (.text s) = some true ↔ d = .text s := by
  rcases kind with rfl | ⟨t, rfl⟩
  · simp [equal, Datum.isNull]
  · simp [equal, Datum.isNull, Datum.same]

theorem among_texts (s : String) (texts : List String) :
    among (.text s) (texts.map .text) = some (texts.contains s) := by
  induction texts with
  | nil => rfl
  | cons t texts ih =>
    have first : equal (.text s) (.text t) = some (s == t) := by
      simp [equal, Datum.isNull, Datum.same]
    have step : among (.text s) ((t :: texts).map .text) =
        (equal (.text s) (.text t)).or (among (.text s) (texts.map .text)) := rfl
    rw [step, first, ih, List.contains_cons]
    cases s == t <;> cases texts.contains s <;> rfl

end Truth

/-! ### Clauses -/

def Clause (q : Quoting) (text : String) (c : Condition) : Prop :=
  ∃ lexemes, q.lexemes? text.toList = some lexemes ∧
    ∀ outer frame, lexemes.foldlM Reader.step ⟨outer, frame, .start⟩ =
      some ⟨outer, frame, .comparison c⟩

theorem Clause.condition? {text : String} {c : Condition} (h : Clause q text c) :
    q.condition? text.toList = some c := by
  obtain ⟨lexemes, read, run⟩ := h
  rw [Quoting.condition?, read, Option.bind_eq_bind, Option.bind_some, run [] {}]
  rfl

section Alternatives

variable {row : String → Datum} {holds : String → Prop} {texts : List String}

def Offers (alternative : Option Condition) (row : String → Datum) : Prop :=
  ∃ c, alternative = some c ∧ c.truth row = some true

theorem Frame.truth_whole (alternative : Option Condition) (last : Condition) :
    ((Frame.mk alternative none).whole last).truth row = some true ↔
      Offers alternative row ∨ last.truth row = some true := by
  cases alternative with
  | none => simp [Frame.whole, Frame.conjunction, Offers]
  | some c => simp [Frame.whole, Frame.conjunction, Offers, Condition.truth, Truth.or_eq_true]

/-- Clauses with `OR` between them are read one after the other, and their conditions are
alternatives. -/
theorem read_alternatives (inhabited : texts ≠ [])
    (clauses : ∀ text ∈ texts, ∃ c, Clause q text c ∧ (c.truth row = some true ↔ holds text)) :
    ∃ lexemes, q.lexemes? (String.intercalate " OR " texts).toList = some lexemes ∧
      ∀ outer alternative, ∃ reached last,
        lexemes.foldlM Reader.step ⟨outer, ⟨alternative, none⟩, .start⟩ =
          some ⟨outer, ⟨reached, none⟩, .comparison last⟩ ∧
        (((Frame.mk reached none).whole last).truth row = some true ↔
          Offers alternative row ∨ ∃ text ∈ texts, holds text) := by
  -- Each `OR` makes all that stands before it the alternative to the rest.
  induction texts with
  | nil => exact absurd rfl inhabited
  | cons text texts ih =>
    obtain ⟨c, ⟨lexemes, read, run⟩, truth⟩ := clauses text List.mem_cons_self
    cases texts with
    | nil =>
      refine ⟨lexemes, by simpa using read, fun outer alternative => ?_⟩
      refine ⟨alternative, c, run outer _, ?_⟩
      rw [Frame.truth_whole, truth]
      simp
    | cons next texts =>
      obtain ⟨more, readMore, runMore⟩ :=
        ih (by simp) fun other mem => clauses other (List.mem_cons_of_mem _ mem)
      have joined : (String.intercalate " OR " (text :: next :: texts)).toList =
          text.toList ++ ' ' :: ("OR".toList ++
            ' ' :: (String.intercalate " OR " (next :: texts)).toList) := by
        rw [String.intercalate_cons_cons, String.toList_append, String.toList_append,
          List.append_assoc]
        rfl
      have keyword : q.lexemes? "OR".toList = some [.word "OR"] := by cases q <;> rfl
      have rest := Quoting.lexemes?_append keyword (c := ' ') (by decide) readMore
      refine ⟨_, by rw [joined]; exact Quoting.lexemes?_append read (by decide) rest, ?_⟩
      intro outer alternative
      obtain ⟨reached, last, runs, holdsOf⟩ :=
        runMore outer (some ((Frame.mk alternative none).whole c))
      refine ⟨reached, last, ?_, ?_⟩
      · rw [List.foldlM_append, run]
        exact runs
      · rw [holdsOf]
        have earlier : Offers (some ((Frame.mk alternative none).whole c)) row ↔
            Offers alternative row ∨ holds text := by
          rw [← truth, ← Frame.truth_whole]
          simp [Offers]
        rw [earlier, or_assoc]
        simp [or_and_right, exists_or]

theorem condition?_alternatives (inhabited : texts ≠ [])
    (clauses : ∀ text ∈ texts, ∃ c, Clause q text c ∧ (c.truth row = some true ↔ holds text)) :
    ∃ c, q.condition? ("(" ++ String.intercalate " OR " texts ++ ")").toList = some c ∧
      (c.truth row = some true ↔ ∃ text ∈ texts, holds text) := by
  obtain ⟨lexemes, read, run⟩ := read_alternatives inhabited clauses
  obtain ⟨reached, last, runs, truth⟩ := run [{}] none
  have joined : ("(" ++ String.intercalate " OR " texts ++ ")").toList =
      [] ++ '(' :: ((String.intercalate " OR " texts).toList ++ ')' :: []) := by
    rw [String.toList_append, String.toList_append]
    rfl
  have empty : q.lexemes? [] = some [] := rfl
  have closed := Quoting.lexemes?_append read (c := ')') (by decide) empty
  have opened := Quoting.lexemes?_append empty (c := '(') (by decide) closed
  refine ⟨(Frame.mk reached none).whole last, ?_, by rw [truth]; simp [Offers]⟩
  rw [joined, Quoting.condition?, opened]
  have last : (lexemes ++ [Lexeme.sign ')']).foldlM Reader.step ⟨[{}], {}, .start⟩ =
      some ⟨[], {}, .comparison ((Frame.mk reached none).whole last)⟩ := by
    rw [List.foldlM_append, runs]
    rfl
  simp only [Option.bind_eq_bind, Option.bind_some]
  exact congrArg (·.bind Reader.finish?) last

end Alternatives

end SystemCatalog.Sql
