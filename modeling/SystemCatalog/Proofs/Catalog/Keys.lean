import SystemCatalog.Catalog.Answer
import SystemCatalog.Proofs.Acl.Escaped
import SystemCatalog.Proofs.Catalog.Record

/-!
# Keys that stand in one array

A driver delivers the names in a primary key as a list or as the text of an array.  `Recovers` says
which names are read from the text as they stand in the list; the answers to both deliveries are the
same exactly for these: `answer_printed_iff`.
-/

namespace SystemCatalog.Catalog

open Acl (line)
open Acl.Element (comma_not_mem_printed isWrapped stripped_printed_iff)
open Text (stripChar trim)

variable {isSpace : Char → Bool} {texts : List (List Char)} {names : List String} {r : Record}
  {table : Datum}

/-! ### Names in arrays -/

/-- Whether a name comes back from the array that it is printed in: nothing in it separates or is
escaped, and it has no blanks at its ends unless it stands between quotes. -/
structure Recovers (isSpace : Char → Bool) (name : List Char) : Prop where
  comma : ',' ∉ name
  quote : '"' ∉ name
  backslash : '\\' ∉ name
  ends : isWrapped isSpace name = false → trim name = name

theorem arrayElements_braces (inner : List Char) :
    arrayElements ('\x7b' :: (inner ++ ['\x7d'])) =
      (((Text.splitOn ',' inner).map trim).filter (!·.isEmpty)).map (stripChar '"') := by
  rw [arrayElements, Text.trim_enclosed (by decide) (by decide), Text.unwrap_enclosed]

theorem comma_not_mem_arrayElements {s text : List Char} (mem : text ∈ arrayElements s) :
    ',' ∉ text := by
  obtain ⟨trimmed, kept, rfl⟩ := List.mem_map.mp mem
  obtain ⟨piece, cut, rfl⟩ := List.mem_map.mp (List.mem_filter.mp kept).1
  intro comma
  exact Text.not_mem_of_mem_splitOn cut (Text.mem_of_mem_strip (Text.mem_of_mem_strip comma))

theorem filter_pieces_iff (named : ∀ text ∈ texts, text ≠ []) (print : List Char → List Char) :
    (((texts.map print).map trim).filter (!·.isEmpty)).map (stripChar '"') = texts ↔
      ∀ text ∈ texts, stripChar '"' (trim (print text)) = text := by
  have trimmed : (texts.map print).map trim = texts.map fun text => trim (print text) := by simp
  have elements : (texts.map fun text => trim (print text)).map (stripChar '"') = texts ↔
      ∀ text ∈ texts, stripChar '"' (trim (print text)) = text := by
    rw [List.map_map]
    exact (Eq.congr_right (List.map_id texts).symm).trans List.map_inj_left
  rw [trimmed, ← elements]
  constructor
  · intro same
    have full := congrArg List.length same
    rw [List.length_map] at full
    have kept : ((texts.map fun text => trim (print text)).filter (!·.isEmpty)).length =
        (texts.map fun text => trim (print text)).length := by
      rw [full, List.length_map]
    rwa [List.filter_eq_self.mpr (List.length_filter_eq_length_iff.mp kept)] at same
  · intro same
    have inhabited : ∀ piece ∈ texts.map fun text => trim (print text),
        (!piece.isEmpty) = true := by
      intro piece mem
      obtain ⟨text, held, rfl⟩ := List.mem_map.mp mem
      have read := elements.mp same text held
      cases blank : trim (print text) with
      | nil =>
        rw [blank] at read
        exact absurd read.symm (named text held)
      | cons c rest => rfl
    rwa [List.filter_eq_self.mpr inhabited]

theorem arrayElements_line_iff (named : ∀ text ∈ texts, text ≠ []) :
    arrayElements ('\x7b' :: (line isSpace texts ++ ['\x7d'])) = texts ↔
      ∀ text ∈ texts, Recovers isSpace text := by
  by_cases none : texts = []
  · subst none
    exact iff_of_true rfl (by simp)
  have apart : (∀ text ∈ texts, ',' ∉ text) →
      Text.splitOn ',' (line isSpace texts) = texts.map (Acl.Element.printed isSpace) := by
    intro absent
    apply Text.splitOn_intercalate (by simpa using none)
    intro piece mem
    obtain ⟨text, held, rfl⟩ := List.mem_map.mp mem
    exact comma_not_mem_printed (absent text held)
  constructor
  · intro same
    have absent : ∀ text ∈ texts, ',' ∉ text := fun text mem =>
      comma_not_mem_arrayElements (same ▸ mem)
    rw [arrayElements_braces, apart absent, filter_pieces_iff named] at same
    intro text mem
    obtain ⟨quote, backslash, ends⟩ := stripped_printed_iff.mp (same text mem)
    exact ⟨absent text mem, quote, backslash, ends⟩
  · intro recovers
    rw [arrayElements_braces, apart fun text mem => (recovers text mem).comma,
      filter_pieces_iff named]
    intro text mem
    have recovered := recovers text mem
    exact stripped_printed_iff.mpr ⟨recovered.quote, recovered.backslash, recovered.ends⟩

theorem columnNames_printed_iff (isSpace : Char → Bool) (named : ∀ name ∈ names, name ≠ "") :
    columnNames (.text (Acl.printed isSpace names)) = .ok names ↔
      ∀ name ∈ names, Recovers isSpace name.toList := by
  have texts : ∀ text ∈ names.map String.toList, text ≠ [] := by
    intro text mem
    obtain ⟨name, held, rfl⟩ := List.mem_map.mp mem
    rw [Ne, String.toList_eq_nil_iff]
    exact named name held
  have array : (Acl.printed isSpace names).toList =
      '\x7b' :: (line isSpace (names.map String.toList) ++ ['\x7d']) := by
    rw [Acl.printed, String.toList_ofList, line, List.map_map]
    rfl
  have back : (names.map String.toList).map String.ofList = names := by simp
  rw [columnNames, array, Except.ok.injEq]
  nth_rewrite 2 [← back]
  rw [List.map_inj_right fun _ _ => String.ofList_inj.mp, arrayElements_line_iff texts]
  simp

theorem columnNames_list (names : List String) :
    columnNames (.list (names.map .text)) = .ok names := by
  simp [columnNames, Datum.elements?, Datum.plain, Function.comp_def]

/-! ### Rows -/

/-- The row for the name of a column and its place in the key that a record gives. -/
def keyRow (r : Record) (table : Datum) (p : String × Nat) : PrimaryKeyRow where
  catalog := r.getD "table_cat"
  schema := r.getD "table_schem"
  table
  column := .text p.1
  position := p.2
  key := r.getD "pk_name"

/-- The rows for the names in a key, numbered from zero. -/
def keyRows (r : Record) (table : Datum) (names : List String) : List Row :=
  names.zipIdx.map fun p => .primaryKey (keyRow r table p)

theorem keyRows_inj {others : List String}
    (same : keyRows r table names = keyRows r table others) : names = others := by
  have rows : ∀ p q : String × Nat,
      Row.primaryKey (keyRow r table p) = .primaryKey (keyRow r table q) → p = q := by
    intro p q eq
    simp only [keyRow, Row.primaryKey.injEq, PrimaryKeyRow.mk.injEq, Datum.text.injEq, true_and,
      and_true] at eq
    exact Prod.ext eq.1 (Int.ofNat.inj eq.2)
  have places := (List.map_inj_right rows).mp same
  rw [← List.zipIdx_map_fst 0 names, places, List.zipIdx_map_fst]

theorem keyFromArray_eq (known : r.get? "table_name" = some table)
    (read : columnNames (r.getD "column_names") = .ok names) :
    keyFromArray r = .ok (names.zipIdx.map (keyRow r table)) := by
  have row : ∀ p : String × Nat, (do
      return { keyRow r table p with table := ← r.require "table_name" } :
        Except Fault PrimaryKeyRow) = pure (keyRow r table p) := by
    intro p
    rw [Record.require_ok known]
    rfl
  unfold keyFromArray
  rw [read]
  exact (congrArg (names.zipIdx.mapM ·) (funext row)).trans List.mapM_pure

theorem answer_array_eq {q : Query} (form : q.form = .keysAsArray)
    (known : r.get? "table_name" = some table)
    (read : columnNames (r.getD "column_names") = .ok names) :
    q.answer [r] = .ok (keyRows r table names) := by
  unfold Query.answer
  rw [form]
  dsimp only
  rw [List.mapM_cons, keyFromArray_eq known read]
  simp [keyRows]

/-- A key that is delivered as a list has a row for every name, numbered from zero.  One that is
delivered as the text of an array has the same rows exactly if every name comes back from it. -/
theorem answer_printed_iff {q : Query} (form : q.form = .keysAsArray) (isSpace : Char → Bool)
    {names : List String} (named : ∀ name ∈ names, name ≠ "") {listed printed : Record}
    {table : Datum} (known : listed.get? "table_name" = some table)
    (same : ∀ field, field ≠ "column_names" → printed.get? field = listed.get? field)
    (list : listed.getD "column_names" = .list (names.map .text))
    (text : printed.getD "column_names" = .text (Acl.printed isSpace names)) :
    q.answer [listed] = .ok (keyRows listed table names) ∧
      (q.answer [printed] = q.answer [listed] ↔
        ∀ name ∈ names, Recovers isSpace name.toList) := by
  have answered : q.answer [listed] = .ok (keyRows listed table names) :=
    answer_array_eq form known (by rw [list, columnNames_list])
  refine ⟨answered, ?_⟩
  have sameRow : keyRow printed table = keyRow listed table := by
    have getD : ∀ field, field ≠ "column_names" → printed.getD field = listed.getD field := by
      intro field other
      rw [Record.getD, same field other, Record.getD]
    funext p
    rw [keyRow, getD "table_cat" (by decide), getD "table_schem" (by decide),
      getD "pk_name" (by decide), keyRow]
  rw [← columnNames_printed_iff isSpace named, answered, ← text]
  constructor
  · intro equal
    cases read : columnNames (printed.getD "column_names") with
    | error f =>
      rw [text] at read
      cases read
    | ok others =>
      rw [answer_array_eq form ((same _ (by decide)).trans known) read, Except.ok.injEq, keyRows,
        sameRow] at equal
      exact congrArg Except.ok (keyRows_inj equal)
  · intro read
    rw [answer_array_eq form ((same _ (by decide)).trans known) read, keyRows, sameRow]
    rfl

def arrayQuery : Query where
  kind := .primaryKeys
  form := .keysAsArray
  sql := ""
  version := .ofInts 2 0 0
  schemaColumn := "table_schema"

def listedKey (names : List String) : Record :=
  [("table_name", .text "t"), ("column_names", .list (names.map .text))]

def printedKey (names : List String) : Record :=
  [("table_name", .text "t"), ("column_names", .text (Acl.printed (· == ' ') names))]

theorem get?_printedKey (names : List String) (field : String) (other : field ≠ "column_names") :
    (printedKey names).get? field = (listedKey names).get? field := by
  simp [Record.get?, printedKey, listedKey, List.lookup_cons, beq_eq_false_iff_ne.mpr other]

/-- Names with a blank and with braces come back, and a name with a comma does not. -/
theorem answer_printed_iff_signs :
    arrayQuery.answer [printedKey ["order id", "\x7bn\x7d"]] =
        arrayQuery.answer [listedKey ["order id", "\x7bn\x7d"]] ∧
      arrayQuery.answer [printedKey ["a,b"]] ≠ arrayQuery.answer [listedKey ["a,b"]] := by
  have signs := (answer_printed_iff (q := arrayQuery) rfl (· == ' ') (by decide) rfl
    (get?_printedKey ["order id", "\x7bn\x7d"]) rfl rfl).2
  have comma := (answer_printed_iff (q := arrayQuery) rfl (· == ' ') (by decide) rfl
    (get?_printedKey ["a,b"]) rfl rfl).2
  constructor
  · refine signs.mpr fun name mem => ?_
    simp only [List.mem_cons, List.not_mem_nil, or_false] at mem
    rcases mem with rfl | rfl
    · exact ⟨by decide, by decide, by decide, by decide⟩
    · exact ⟨by decide, by decide, by decide, by decide⟩
  · intro same
    have recovers := comma.mp same "a,b" List.mem_cons_self
    exact recovers.comma (by decide)

/-- The text of an array with one name can be read as two names. -/
theorem not_always_same_key :
    ¬ ∀ (q : Query) (isSpace : Char → Bool) (names : List String) (listed printed : Record)
      (table : Datum), q.form = .keysAsArray → (∀ name ∈ names, name ≠ "") →
      listed.get? "table_name" = some table →
      (∀ field, field ≠ "column_names" → printed.get? field = listed.get? field) →
      listed.getD "column_names" = .list (names.map .text) →
      printed.getD "column_names" = .text (Acl.printed isSpace names) →
        q.answer [printed] = q.answer [listed] := by
  intro always
  have same := always arrayQuery (· == ' ') ["a,b"] (listedKey ["a,b"]) (printedKey ["a,b"])
    (.text "t") rfl (by decide) rfl (get?_printedKey _) rfl rfl
  have two : columnNames (.text (Acl.printed (· == ' ') ["a,b"])) = .ok ["a", "b"] := rfl
  rw [@answer_array_eq _ (printedKey ["a,b"]) (.text "t") _ rfl rfl two,
    @answer_array_eq _ (listedKey ["a,b"]) (.text "t") _ rfl rfl (columnNames_list _)] at same
  exact absurd (congrArg List.length (Except.ok.inj same)) (by decide)

end SystemCatalog.Catalog
