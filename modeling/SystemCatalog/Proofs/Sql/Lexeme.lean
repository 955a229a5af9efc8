import Mathlib.Data.List.Basic
import SystemCatalog.Proofs.Sql.Reading
import SystemCatalog.Sql.Lexeme

/-!
# Reading words and signs

A text is read word by word before any other one if a sign or a blank stands between them:
`lexemes?_append_cons`.
-/

namespace SystemCatalog.Sql

variable {q : Quoting}

namespace Lexeme

theorem group_append_sign {c : Char} (sign : isWord c = false) (begun : List Char)
    (front rest : List Token) :
    group begun (front ++ .other c :: rest) =
      group begun front ++ (ofSign c ++ group [] rest) := by
  induction front generalizing begun with
  | nil => simp [group, sign]
  | cons token front ih =>
    cases token with
    | literal value => simp [group, ih]
    | other d =>
      by_cases word : isWord d = true
      · simp [group, word, ih]
      · simp [group, word, ih]

end Lexeme

namespace Quoting

theorem tokens?_cons {c : Char} (neutral : Neutral c) (t : List Char) :
    q.tokens? (c :: t) = (q.tokens? t).map (.other c :: ·) := by
  have first : q.step (.outside false) c = ([.other c], .outside false) := by
    rw [step_plain rfl neutral.plain, neutral.2]
    rfl
  simp [tokens?, scan, first, Option.map_map, Function.comp_def]

theorem lexemes?_append_cons {s : List Char} {c : Char} {before : List Lexeme}
    (left : q.lexemes? s = some before) (neutral : Neutral c) (t : List Char) :
    q.lexemes? (s ++ c :: t) = (q.lexemes? t).map fun after => before ++ (Lexeme.ofSign c ++ after) := by
  obtain ⟨front, read, rfl⟩ := Option.map_eq_some_iff.mp left
  have apart : Apart s (c :: t) := Or.inl (by simpa using neutral.plain)
  rw [lexemes?, lexemes?, tokens?_append read apart, tokens?_cons neutral]
  simp [Option.map_map, Function.comp_def, Lexeme.group_append_sign neutral.2]

theorem lexemes?_append {s t : List Char} {c : Char} {before after : List Lexeme}
    (left : q.lexemes? s = some before) (neutral : Neutral c) (right : q.lexemes? t = some after) :
    q.lexemes? (s ++ c :: t) = some (before ++ (Lexeme.ofSign c ++ after)) := by
  rw [lexemes?_append_cons left neutral, right, Option.map_some]

end Quoting

end SystemCatalog.Sql
