import Mathlib.Data.List.Forall2
import SystemCatalog.Proofs.Sql.Lexeme
import SystemCatalog.Sql.SelectList

/-!
# Reading lists of selected columns

A list is read item by item, and its names are those of its items: `selectedNames?_select`.
-/

namespace SystemCatalog.Sql

variable {q : Quoting} {texts names : List String}

/-- Whether a text is read as an item with a name. -/
def Item (q : Quoting) (text name : String) : Prop :=
  ∃ lexemes, q.lexemes? text.toList = some lexemes ∧
    ∀ last rest, itemNames last (lexemes ++ rest) = itemNames (some name) rest

def isName (s : String) : Bool := s.toList.all isWord && s != "" && s != "FROM"

theorem group_word {s : List Char} (word : s.all isWord = true) (begun : List Char) :
    Lexeme.group begun (s.map .other) = Lexeme.ofWord (begun ++ s) := by
  induction s generalizing begun with
  | nil => simp [Lexeme.group]
  | cons c s ih =>
    rw [List.all_cons, Bool.and_eq_true] at word
    rw [List.map_cons, Lexeme.group, if_pos word.1, ih word.2]
    simp

theorem item_name {name : String} (plain : isName name = true) : Item q name name := by
  simp only [isName, Bool.and_eq_true, bne_iff_ne, ne_eq] at plain
  obtain ⟨⟨word, inhabited⟩, source⟩ := plain
  have quotes : '\'' ∉ name.toList := by
    intro mem
    have quote := List.all_eq_true.mp word _ mem
    revert quote
    decide
  refine ⟨[.word name], ?_, fun last rest => ?_⟩
  · rw [Quoting.lexemes?, Quoting.tokens?_text quotes, Option.map_some, group_word word]
    simp [Lexeme.ofWord, inhabited]
  · rw [List.singleton_append, itemNames]
    exact source

theorem item_quoted {name : String} (plain : isName name = true) :
    Item q ("\"" ++ name ++ "\"") name := by
  obtain ⟨lexemes, read, named⟩ := item_name (q := q) plain
  have joined : ("\"" ++ name ++ "\"").toList = [] ++ '"' :: (name.toList ++ '"' :: []) := by
    rw [String.toList_append, String.toList_append]
    rfl
  have empty : q.lexemes? [] = some [] := rfl
  have closed := Quoting.lexemes?_append read (c := '"') (by decide) empty
  refine ⟨_, by rw [joined]; exact Quoting.lexemes?_append empty (by decide) closed, ?_⟩
  intro last rest
  have opening : itemNames last (.sign '"' :: (lexemes ++ .sign '"' :: rest)) =
      itemNames last (lexemes ++ .sign '"' :: rest) := rfl
  simp only [Lexeme.ofSign, List.nil_append, List.append_assoc]
  exact opening.trans (named _ _)

theorem item_qualified {name : String} (plain : isName name = true) :
    Item q ("kcu." ++ name) name := by
  obtain ⟨lexemes, read, named⟩ := item_name (q := q) plain
  have joined : ("kcu." ++ name).toList = "kcu".toList ++ '.' :: name.toList := by
    rw [String.toList_append]
    rfl
  have table : q.lexemes? "kcu".toList = some [.word "kcu"] := by cases q <;> rfl
  refine ⟨_, by rw [joined]; exact Quoting.lexemes?_append table (by decide) read, ?_⟩
  exact fun last rest => named (some "kcu") rest

theorem item_aliased {expression label first name : String} (value : Item q expression first)
    (called : Item q label name) : Item q (expression ++ " AS " ++ label) name := by
  obtain ⟨lexemes, read, named⟩ := value
  obtain ⟨more, readMore, namedMore⟩ := called
  have joined : (expression ++ " AS " ++ label).toList =
      expression.toList ++ ' ' :: ("AS".toList ++ ' ' :: label.toList) := by
    rw [String.toList_append, String.toList_append, List.append_assoc]
    rfl
  have keyword : q.lexemes? "AS".toList = some [.word "AS"] := by cases q <;> rfl
  have rest := Quoting.lexemes?_append keyword (c := ' ') (by decide) readMore
  refine ⟨_, by rw [joined]; exact Quoting.lexemes?_append read (by decide) rest, ?_⟩
  intro last rest
  rw [List.append_assoc, named]
  exact namedMore (some "AS") rest

theorem items_names (plain : ∀ name ∈ names, isName name = true) :
    List.Forall₂ (Item q) names names :=
  List.forall₂_same.mpr fun name mem => item_name (plain name mem)

theorem read_items (items : List.Forall₂ (Item q) texts names) (inhabited : texts ≠ []) :
    ∃ lexemes, q.lexemes? (String.intercalate ", " texts).toList = some lexemes ∧
      ∀ rest, itemNames none (lexemes ++ .word "FROM" :: rest) = some names := by
  induction items with
  | nil => exact absurd rfl inhabited
  | @cons text name texts names item items ih =>
    obtain ⟨lexemes, read, named⟩ := item
    cases items with
    | nil =>
      refine ⟨lexemes, by simpa using read, fun rest => ?_⟩
      rw [named]
      rfl
    | @cons next other texts names second items =>
      obtain ⟨more, readMore, namedMore⟩ := ih (by simp)
      have joined : (String.intercalate ", " (text :: next :: texts)).toList =
          text.toList ++ ',' :: ([] ++ ' ' :: (String.intercalate ", " (next :: texts)).toList) := by
        rw [String.intercalate_cons_cons, String.toList_append, String.toList_append,
          List.append_assoc]
        rfl
      have empty : q.lexemes? [] = some [] := rfl
      have rest := Quoting.lexemes?_append empty (c := ' ') (by decide) readMore
      refine ⟨_, by rw [joined]; exact Quoting.lexemes?_append read (by decide) rest, ?_⟩
      intro later
      rw [List.append_assoc, named]
      have comma : itemNames (some name) (.sign ',' :: (more ++ .word "FROM" :: later)) =
          (itemNames none (more ++ .word "FROM" :: later)).map (name :: ·) := by
        rw [itemNames]
        cases itemNames none (more ++ .word "FROM" :: later) <;> rfl
      exact comma.trans (by rw [namedMore]; rfl)

theorem selectedNames?_select (items : List.Forall₂ (Item q) texts names) (inhabited : texts ≠ [])
    {rest : List Char}
    (read : (q.tokens? ("SELECT ".toList ++ ((String.intercalate ", " texts).toList ++
      (" FROM ".toList ++ rest)))).isSome = true) :
    q.selectedNames? ("SELECT ".toList ++ ((String.intercalate ", " texts).toList ++
      (" FROM ".toList ++ rest))) = some names := by
  obtain ⟨lexemes, listed, named⟩ := read_items items inhabited
  have select : q.lexemes? "SELECT".toList = some [.word "SELECT"] := by cases q <;> rfl
  have source : q.lexemes? "FROM".toList = some [.word "FROM"] := by cases q <;> rfl
  have whole : q.lexemes? ("SELECT ".toList ++ ((String.intercalate ", " texts).toList ++
      (" FROM ".toList ++ rest))) =
      (q.lexemes? rest).map fun more => .word "SELECT" :: (lexemes ++ .word "FROM" :: more) := by
    have chars : "SELECT ".toList ++ ((String.intercalate ", " texts).toList ++
        (" FROM ".toList ++ rest)) =
        "SELECT".toList ++ ' ' :: ((String.intercalate ", " texts).toList ++
          ' ' :: ("FROM".toList ++ ' ' :: rest)) := rfl
    rw [chars, Quoting.lexemes?_append_cons select (by decide),
      Quoting.lexemes?_append_cons listed (by decide),
      Quoting.lexemes?_append_cons source (by decide), Option.map_map, Option.map_map]
    rfl
  have some : (q.lexemes? rest).isSome = true := by
    rw [← Option.isSome_map, ← whole, Quoting.lexemes?, Option.isSome_map]
    exact read
  obtain ⟨more, rest⟩ := Option.isSome_iff_exists.mp some
  rw [Quoting.selectedNames?, whole, rest, Option.map_some]
  exact named more

end SystemCatalog.Sql
