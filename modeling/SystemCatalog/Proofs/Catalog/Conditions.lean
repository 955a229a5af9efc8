import SystemCatalog.Proofs.Catalog.Sketch
import SystemCatalog.Proofs.Sql.Composition

/-!
# Conditions and clauses in parallel

Conditions on patterns of the same shape are parallel, and so are the statements that are built
from parallel conditions.
-/

namespace SystemCatalog.Catalog

open Sql

variable {q : Quoting} {f g : Filters}

/-! ### Trusted texts -/

theorem quotes_ofList {text : List Char} (without : '\'' ∉ text) :
    '\'' ∉ (String.ofList text).toList := by
  rwa [String.toList_ofList]

theorem begins_ofList {c : Char} {rest : List Char} (plain : Plain c) :
    (Piece.trusted (String.ofList (c :: rest))).Begins := by
  intro d head
  rw [String.toList_ofList] at head
  obtain rfl : c = d := by simpa using head
  exact plain

theorem ends_ofList {text : List Char} {c : Char} (last : text.getLast? = some c)
    (neutral : Neutral c) : (Piece.trusted (String.ofList text)).Ends := by
  refine ⟨c, ?_, neutral⟩
  rwa [String.toList_ofList]

theorem quotes_append {s t : String} (first : '\'' ∉ s.toList) (second : '\'' ∉ t.toList) :
    '\'' ∉ (s ++ t).toList := by
  rw [String.toList_append, List.mem_append]
  rintro (mem | mem)
  · exact first mem
  · exact second mem

theorem quotes_intercalate {separator : String} {texts : List String}
    (between : '\'' ∉ separator.toList) (quotes : ∀ text ∈ texts, '\'' ∉ text.toList) :
    '\'' ∉ (separator.intercalate texts).toList := by
  induction texts with
  | nil => simp
  | cons text texts ih =>
    have first := quotes text List.mem_cons_self
    have rest := ih fun other mem => quotes other (List.mem_cons_of_mem _ mem)
    cases texts with
    | nil => rwa [String.intercalate_singleton]
    | cons next texts =>
      rw [String.intercalate_cons_cons]
      exact quotes_append (quotes_append first between) rest

def Readable (q : Quoting) (text : String) : Prop := (q.tokens? text.toList).isSome = true

theorem readable_ofList {text : List Char} (read : (q.tokens? text).isSome = true) :
    Readable q (String.ofList text) := by
  rwa [Readable, String.toList_ofList]

theorem readable_text {text : String} (quotes : '\'' ∉ text.toList) : Readable q text := by
  rw [Readable, Quoting.tokens?_text quotes]
  rfl

theorem readable_append {s t : String} (first : Readable q s) (second : Readable q t)
    (joins : (Piece.trusted s).Joins (.trusted t)) : Readable q (s ++ t) := by
  obtain ⟨found, read⟩ := Option.isSome_iff_exists.mp first
  have apart : Apart s.toList t.toList := joins.symm
  rw [Readable, String.toList_append, Quoting.tokens?_append read apart, Option.isSome_map]
  exact second

theorem append_ne_empty {s t : String} (inhabited : s ≠ "") : s ++ t ≠ "" := by
  intro without
  rw [String.append_eq_empty_iff] at without
  exact inhabited without.1

theorem legible_ofList {text : List Char} (inhabited : text ≠ [])
    (read : (q.tokens? text).isSome = true) : (Part.trusted (String.ofList text)).Legible q := by
  refine ⟨?_, readable_ofList read⟩
  intro without
  exact inhabited (by simpa using congrArg String.toList without)

theorem legible_clause {keyword : List Char} {names : String} (inhabited : keyword ≠ [])
    (quotes : '\'' ∉ keyword) (named : '\'' ∉ names.toList) :
    (Part.trusted (String.ofList keyword ++ names)).Legible q := by
  refine ⟨append_ne_empty ?_, readable_text (quotes_append (quotes_ofList quotes) named)⟩
  intro without
  exact inhabited (by simpa using congrArg String.toList without)

theorem legible_append {s t : String} (quotes : '\'' ∉ s.toList)
    (begins : (Piece.trusted t).Begins) (legible : (Part.trusted t).Legible q) :
    (Part.trusted (s ++ t)).Legible q := by
  obtain ⟨inhabited, read⟩ := legible
  refine ⟨?_, readable_append (readable_text quotes) read (Or.inr begins)⟩
  intro without
  rw [String.append_eq_empty_iff] at without
  exact inhabited without.2

theorem begins_append {s : String} (inhabited : s ≠ "") (begins : (Piece.trusted s).Begins)
    (t : String) : (Piece.trusted (s ++ t)).Begins := by
  have chars : s.toList ≠ [] := by simpa using inhabited
  intro c head
  rw [String.toList_append, List.head?_append_of_ne_nil _ chars] at head
  exact begins c head

theorem ends_append (s : String) {t : String} (ends : (Piece.trusted t).Ends) :
    (Piece.trusted (s ++ t)).Ends := by
  obtain ⟨c, last, neutral⟩ := ends
  refine ⟨c, ?_, neutral⟩
  rw [String.toList_append, List.getLast?_append]
  simp [Option.mem_def.mp last]

/-! ### Conditions -/

theorem matching_text (column : String) {s : String} (inhabited : s ≠ "") :
    matching column (.text s) = .trusted (column ++ " LIKE ") ++ .literal (.text s) := by
  unfold matching
  split
  · next eq => cases eq
  · next eq =>
    cases eq
    exact absurd rfl inhabited
  · rfl

namespace Parallel

variable {kind : Kind} {x : Argument} {column : String}

theorem matching (search : kind ≠ .primaryKeys) (quotes : '\'' ∉ column.toList)
    (shape : Query.SameShape kind x (f.value x) (g.value x)) :
    Parallel q f g ([x].filter fun a => Query.isWritten kind (f.value a))
      (Sql.matching column (f.value x)) (Sql.matching column (g.value x)) := by
  generalize left : f.value x = d, right : g.value x = e at shape
  cases shape with
  | absent optional =>
    simp only [List.filter_cons, left, Query.isWritten]
    exact trusted (legible_append quotes (begins_ofList (by decide))
      (legible_ofList (by decide) (by cases q <;> decide)))
  | blank _ =>
    simp only [List.filter_cons, left, Query.isWritten, search]
    exact trusted (legible_append quotes (begins_ofList (by decide))
      (legible_ofList (by decide) (by cases q <;> decide)))
  | @filled s t written written' zero zero' =>
    have inhabited : s ≠ "" := by simpa [Query.isWritten, search] using written
    have inhabited' : t ≠ "" := by simpa [Query.isWritten, search] using written'
    rw [List.filter_cons, left, if_pos written, matching_text _ inhabited,
      matching_text _ inhabited', ← left, ← right]
    exact operator (legible_append quotes (begins_ofList (by decide))
      (legible_ofList (by decide) (by cases q <;> decide)))
      (ends_append _ (ends_ofList rfl (by decide))) ⟨s, left, zero⟩ ⟨t, right, zero'⟩

theorem matching? (search : kind ≠ .primaryKeys) (quotes : '\'' ∉ column.toList)
    (shape : Query.SameShape kind x (f.value x) (g.value x)) :
    Parallel q f g ([x].filter fun a => Query.isWritten kind (f.value a))
      (Sql.matching? column (f.value x)) (Sql.matching? column (g.value x)) := by
  have both := matching (q := q) search quotes shape
  unfold Sql.matching?
  generalize left : f.value x = d, right : g.value x = e at shape both
  cases shape with
  | absent _ =>
    simp only [List.filter_cons, left, Query.isWritten]
    exact empty
  | blank _ => exact both
  | filled _ _ _ _ => exact both

theorem equality (quotes : '\'' ∉ column.toList) (left : Writable (f.value x))
    (right : Writable (g.value x)) :
    Parallel q f g [x] (Sql.equality column (f.value x)) (Sql.equality column (g.value x)) :=
  operator (legible_append quotes (begins_ofList (by decide))
    (legible_ofList (by decide) (by cases q <;> decide)))
    (ends_append _ (ends_ofList rfl (by decide))) left right

theorem equality? (quotes : '\'' ∉ column.toList)
    (shape : Query.SameShape .primaryKeys x (f.value x) (g.value x)) :
    Parallel q f g ([x].filter fun a => Query.isWritten .primaryKeys (f.value a))
      (Query.equality? column (f.value x)) (Query.equality? column (g.value x)) := by
  generalize left : f.value x = d, right : g.value x = e at shape
  cases shape with
  | absent _ =>
    simp only [List.filter_cons, left, Query.isWritten]
    exact empty
  | blank search => exact absurd rfl search
  | @filled s t written written' zero zero' =>
    have both := equality (q := q) quotes ⟨s, left, zero⟩ ⟨t, right, zero'⟩
    rw [left, right] at both
    rw [List.filter_cons, left, if_pos written]
    exact both

theorem exactName (quotes : '\'' ∉ column.toList)
    (shape : Query.SameShape .primaryKeys .table (f.value .table) (g.value .table)) :
    Parallel q f g ([.table].filter fun a => Query.isWritten .primaryKeys (f.value a))
      (Sql.equality column (f.value .table)) (Sql.equality column (g.value .table)) := by
  generalize left : f.value .table = d, right : g.value .table = e at shape
  cases shape with
  | absent optional => exact absurd (optional rfl) (by decide)
  | blank search => exact absurd rfl search
  | @filled s t written written' zero zero' =>
    have both := equality (q := q) quotes ⟨s, left, zero⟩ ⟨t, right, zero'⟩
    rw [left, right] at both
    rw [List.filter_cons, left, if_pos written]
    exact both

theorem conjunction {a : List Argument} {fragments others : List Fragment}
    (h : AllParallel q f g a fragments others) :
    Parallel q f g a (Sql.conjunction fragments) (Sql.conjunction others) :=
  h.join ⟨legible_ofList (by decide) (by cases q <;> decide), begins_ofList (by decide),
    ends_ofList rfl (by decide)⟩

end Parallel

/-! ### Clauses -/

/-- Statements so far with the same clauses but for the patterns in them. -/
def BuiltAlike (q : Quoting) (f g : Filters) (a : List Argument) (b c : Builder) : Prop :=
  ∃ fragments others, b.clauses = fragments.map .fragment ∧ c.clauses = others.map .fragment ∧
    (∀ F ∈ fragments, F.isEmpty = false) ∧ (∀ G ∈ others, G.isEmpty = false) ∧
    AllParallel q f g a fragments others

namespace BuiltAlike

variable {a x : List Argument} {b c : Builder} {F G : Fragment}

theorem empty : BuiltAlike q f g [] .empty .empty :=
  ⟨[], [], rfl, rfl, by simp, by simp, .nil⟩

theorem add (h : BuiltAlike q f g a b c) (clause : Parallel q f g x F G) :
    BuiltAlike q f g (a ++ x) (b.add (.fragment F)) (c.add (.fragment G)) := by
  by_cases without : F.parts = []
  · have without' := clause.nil_iff.mp without
    rw [clause.arguments_nil without, List.append_nil]
    simpa [Builder.add, Operand.isPresent, Fragment.isEmpty, without, without'] using h
  · have present : F.isEmpty = false := by simpa [Fragment.isEmpty] using without
    have present' : G.isEmpty = false := by
      simpa [Fragment.isEmpty] using without ∘ clause.nil_iff.mpr
    obtain ⟨fragments, others, left, right, filled, filled', all⟩ := h
    refine ⟨fragments ++ [F], others ++ [G], ?_, ?_, ?_, ?_, all.concat clause⟩
    · simp [Builder.add, Operand.isPresent, present, left]
    · simp [Builder.add, Operand.isPresent, present', right]
    · intro H mem
      rcases List.mem_append.mp mem with mem | mem
      · exact filled H mem
      · rwa [List.mem_singleton.mp mem]
    · intro H mem
      rcases List.mem_append.mp mem with mem | mem
      · exact filled' H mem
      · rwa [List.mem_singleton.mp mem]

theorem text (h : BuiltAlike q f g a b c) {text : String}
    (legible : (Part.trusted text).Legible q) :
    BuiltAlike q f g a (b.add (.text text)) (c.add (.text text)) := by
  have added := h.add (.trusted legible)
  rwa [List.append_nil] at added

theorem whereClause (h : BuiltAlike q f g a b c) (condition : Parallel q f g x F G) :
    BuiltAlike q f g (a ++ x) (b.whereClause (.fragment F)) (c.whereClause (.fragment G)) := by
  have keyword := h.text (show (Part.trusted "WHERE").Legible q from
    legible_ofList (by decide) (by cases q <;> decide))
  have both := keyword.add condition
  unfold Builder.whereClause
  by_cases without : F.parts = []
  · have without' := condition.nil_iff.mp without
    rw [condition.arguments_nil without, List.append_nil]
    simpa [Operand.isPresent, Fragment.isEmpty, without, without'] using h
  · have without' : G.parts ≠ [] := without ∘ condition.nil_iff.mpr
    simpa [Operand.isPresent, Fragment.isEmpty, without, without'] using both

theorem orderBy (h : BuiltAlike q f g a b c) {columns : List String}
    (quotes : ∀ column ∈ columns, '\'' ∉ column.toList) :
    BuiltAlike q f g a (b.orderBy columns) (c.orderBy columns) := by
  unfold Builder.orderBy
  split
  · exact h
  · apply h.text
    exact legible_clause (by decide) (by decide)
      (quotes_intercalate (quotes_ofList (by decide)) quotes)

theorem build (h : BuiltAlike q f g a b c) :
    ∃ S T, b.build = .ok S ∧ c.build = .ok T ∧ Parallel q f g a S T := by
  obtain ⟨fragments, others, left, right, -, -, all⟩ := h
  exact ⟨_, _, Builder.build_of_clauses left, Builder.build_of_clauses right,
    all.join ⟨legible_ofList (by decide) (by cases q <;> decide), begins_ofList (by decide),
      ends_ofList rfl (by decide)⟩⟩

end BuiltAlike

namespace Query

theorem statement_parallel {a : List Argument} {C D : Fragment} {columns order : List String}
    {source : String} (condition : Parallel q f g a C D)
    (selected : ∀ column ∈ columns, '\'' ∉ column.toList) (named : '\'' ∉ source.toList)
    (sorted : ∀ column ∈ order, '\'' ∉ column.toList) :
    ∃ S T, statement columns source C order = .ok S ∧ statement columns source D order = .ok T ∧
      Parallel q f g a S T := by
  have start : BuiltAlike q f g [] .empty .empty := .empty
  have columnsClause : (Part.trusted (select columns)).Legible q := by
    unfold select
    exact legible_clause (by decide) (by decide)
      (quotes_intercalate (quotes_ofList (by decide)) selected)
  have sourceClause : (Part.trusted ("FROM " ++ source)).Legible q :=
    legible_clause (by decide) (by decide) named
  have clauses := ((start.text columnsClause).text sourceClause).whereClause condition
  rw [List.nil_append] at clauses
  exact (clauses.orderBy sorted).build

end Query

end SystemCatalog.Catalog
