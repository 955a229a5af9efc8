import Mathlib.Data.List.ReduceOption
import SystemCatalog.Proofs.Sql.Fragment
import SystemCatalog.Sql.Builder

/-!
# Composing statements

Fragments are composed without losing or inventing text: sums and joins render to what their members
render to, and a statement to its clauses with single spaces between them.  All of it comes together
in `composition`.
-/

namespace SystemCatalog.Sql

variable {q : Quoting}

/-! ### Sums -/

namespace Fragment

theorem append_assoc (f g h : Fragment) : f ++ g ++ h = f ++ (g ++ h) :=
  congrArg Fragment.mk (List.append_assoc _ _ _)

theorem empty_append (f : Fragment) : empty ++ f = f := rfl

theorem append_empty (f : Fragment) : f ++ empty = f :=
  congrArg Fragment.mk (List.append_nil _)

theorem render_empty : empty.render q = .ok "" := rfl

theorem render_cons (part : Part) (parts : List Part) :
    render q ⟨part :: parts⟩ = do
      let first ← part.render q
      let rest ← render q ⟨parts⟩
      return first ++ rest := by
  simp only [render, List.mapM_cons, bind_assoc, pure_bind, String.join_cons]

theorem render_trusted (text : String) : (trusted text).render q = .ok text := by
  rw [trusted, render_cons]
  exact congrArg Except.ok String.append_empty

theorem render_append (f g : Fragment) :
    (f ++ g).render q = do
      let first ← f.render q
      let second ← g.render q
      return first ++ second := by
  obtain ⟨parts⟩ := f
  induction parts with
  | nil =>
    have whole : (⟨[]⟩ : Fragment) ++ g = g := empty_append g
    have first : render q ⟨[]⟩ = pure "" := render_empty
    rw [whole, first, pure_bind]
    simp only [String.empty_append, bind_pure]
  | cons part parts ih =>
    have whole : (⟨part :: parts⟩ : Fragment) ++ g = ⟨part :: ((⟨parts⟩ : Fragment) ++ g).parts⟩ :=
      rfl
    rw [whole, render_cons, render_cons]
    simp only [ih, bind_assoc, pure_bind, String.append_assoc]

/-! ### Joins -/

def filled (fragments : List Fragment) : List Fragment := fragments.filter fun f => !f.isEmpty

def interleave (separator : Fragment) (fragments : List Fragment) : Fragment :=
  ⟨separator.parts.intercalate (fragments.map parts)⟩

theorem interleave_cons_cons (separator f g : Fragment) (fragments : List Fragment) :
    separator.interleave (f :: g :: fragments) =
      f ++ separator ++ separator.interleave (g :: fragments) :=
  congrArg Fragment.mk List.intercalate_cons_cons

theorem join_eq_interleave (separator : Fragment) (fragments : List Fragment) :
    separator.join fragments = separator.interleave (filled fragments) := by
  have members : (fragments.map parts).filter (!·.isEmpty) = (filled fragments).map parts :=
    List.filter_map
  exact congrArg Fragment.mk ((parts_join separator fragments).trans (by rw [members]))

theorem join_filled (separator : Fragment) (fragments : List Fragment) :
    separator.join (filled fragments) = separator.join fragments := by
  have twice : filled (filled fragments) = filled fragments := by simp [filled]
  rw [join_eq_interleave, join_eq_interleave, twice]

theorem render_interleave {separator : Fragment} {text : String}
    (shown : separator.render q = .ok text) (fragments : List Fragment) :
    (separator.interleave fragments).render q =
      String.intercalate text <$> fragments.mapM (·.render q) := by
  induction fragments with
  | nil => rfl
  | cons f fragments ih =>
    cases fragments with
    | nil =>
      have single : separator.interleave [f] = f := congrArg Fragment.mk List.intercalate_singleton
      rw [single]
      simp
    | cons g fragments =>
      have between : separator.render q = pure text := shown
      rw [interleave_cons_cons, render_append, render_append, ih, between]
      simp only [List.mapM_cons, map_bind, map_pure, bind_assoc, pure_bind,
        String.intercalate_cons_cons]

theorem literals_interleave (text : String) (fragments : List Fragment) :
    ((trusted text).interleave fragments).literals = fragments.flatMap literals := by
  induction fragments with
  | nil => rfl
  | cons f fragments ih =>
    cases fragments with
    | nil => simp [interleave, literals]
    | cons g fragments =>
      have separator : (trusted text).literals = [] := rfl
      simp only [interleave_cons_cons, literals_append, ih, separator, List.append_nil,
        List.flatMap_cons]

end Fragment

open Fragment (filled)

/-! ### Conjunctions of optional fragments -/

namespace Operand

def ofOption (f : Option Fragment) : Operand := f.elim absent fragment

theorem fragment?_fragments (fragments : List Fragment) :
    (fragments.map fragment).mapM fragment? = Except.ok fragments := by
  induction fragments with
  | nil => rfl
  | cons f fragments ih =>
    rw [List.map_cons, List.mapM_cons, ih]
    rfl

theorem join_fragments (separator : Fragment) (fragments : List Fragment) :
    join separator (fragments.map fragment) = .ok (separator.join fragments) := by
  have present : (fragments.map fragment).filter isPresent = (filled fragments).map fragment :=
    List.filter_map
  rw [join, present, fragment?_fragments]
  exact congrArg Except.ok (Fragment.join_filled separator fragments)

theorem filter_ofOption (options : List (Option Fragment)) :
    (options.map ofOption).filter isPresent =
      (options.reduceOption.map fragment).filter isPresent := by
  induction options with
  | nil => rfl
  | cons f options ih =>
    cases f with
    | none =>
      rw [List.map_cons, List.filter_cons_of_neg Bool.false_ne_true, ih,
        List.reduceOption_cons_of_none]
    | some f =>
      rw [List.map_cons, List.reduceOption_cons_of_some, List.map_cons, List.filter_cons,
        List.filter_cons, ih]
      rfl

/-- Of optional fragments, the missing ones do not count. -/
theorem join_ofOption (separator : Fragment) (options : List (Option Fragment)) :
    join separator (options.map ofOption) = .ok (separator.join options.reduceOption) := by
  rw [← join_fragments, join, join, filter_ofOption]

end Operand

theorem Expression.evaluateAll_operands (operands : List Operand) :
    evaluateAll (operands.map operand) = .ok operands := by
  induction operands with
  | nil => rfl
  | cons o operands ih =>
    rw [List.map_cons, evaluateAll, evaluate, ih]
    rfl

def optionalConjunction (options : List (Option Fragment)) : Expression :=
  .conjunction (options.map fun f => .operand (.ofOption f))

theorem evaluate_optionalConjunction (options : List (Option Fragment)) :
    (optionalConjunction options).evaluate =
      .ok (.fragment (conjunction options.reduceOption)) := by
  have operands : options.map (fun f => Expression.operand (.ofOption f)) =
      (options.map Operand.ofOption).map .operand := by
    rw [List.map_map]
    rfl
  rw [optionalConjunction, Expression.evaluate, operands, Expression.evaluateAll_operands]
  exact congrArg (fun joined => joined.map Operand.fragment)
    (Operand.join_ofOption (.trusted " AND ") options)

theorem render_join_trusted (text : String) (fragments : List Fragment) :
    ((Fragment.trusted text).join fragments).literals =
        (filled fragments).flatMap Fragment.literals ∧
      ((Fragment.trusted text).join fragments).render q =
        String.intercalate text <$> (filled fragments).mapM (·.render q) := by
  rw [Fragment.join_eq_interleave]
  exact ⟨Fragment.literals_interleave text _,
    Fragment.render_interleave (Fragment.render_trusted text) _⟩

/-! ### Statements -/

/-- The clause that a text or a fragment is; a text has one part, also when it is empty. -/
def Operand.clause? : Operand → Option Fragment
  | text s => some (.trusted s)
  | fragment f => some f
  | absent | part _ => none

namespace Builder

/-- The clauses that a call adds to a statement, if it is a call with texts and fragments; of the
clauses that are added, those without parts do not count. -/
def Step.clauses? : Step → Option (List Fragment)
  | .add e => do return [← (← e.evaluate.toOption).clause?]
  | .whereClause e => do
    let condition ← e.evaluate.toOption
    let clause ← condition.clause?
    return if condition.isPresent then [.trusted "WHERE", clause] else []
  | .orderBy columns =>
    some (if columns.isEmpty then [] else
      [.trusted ("ORDER BY " ++ String.intercalate ", " columns)])

theorem clauses_add_of_clause? {o : Operand} {clause : Fragment} (given : o.clause? = some clause)
    (b : Builder) : (b.add o).clauses = b.clauses ++ (filled [clause]).map .fragment := by
  cases o with
  | text s =>
    cases given
    rfl
  | fragment f =>
    cases given
    cases blank : clause.isEmpty
    · simp [Builder.add, filled, Operand.isPresent, blank]
    · simp [Builder.add, filled, Operand.isPresent, blank]
  | absent => cases given
  | part p => cases given

theorem evaluate_of_toOption {e : Expression} {o : Operand} (given : e.evaluate.toOption = some o) :
    e.evaluate = .ok o := by
  cases evaluated : e.evaluate with
  | error fault =>
    rw [evaluated] at given
    cases given
  | ok value =>
    rw [evaluated] at given
    cases given
    rfl

theorem clauses_whereClause_of_clause? {o : Operand} {clause : Fragment}
    (given : o.clause? = some clause) (b : Builder) :
    (b.whereClause o).clauses =
      b.clauses ++
        (filled (if o.isPresent then [.trusted "WHERE", clause] else [])).map .fragment := by
  unfold Builder.whereClause
  split
  · -- Both are added; the word in front has a part, whatever the condition is.
    rw [clauses_add_of_clause? given, clauses_add_of_clause? rfl, List.append_assoc,
      ← List.map_append]
    rfl
  · exact (List.append_nil _).symm

theorem clauses_orderBy (b : Builder) (columns : List String) :
    (b.orderBy columns).clauses =
      b.clauses ++
        (filled (if columns.isEmpty then [] else
          [.trusted ("ORDER BY " ++ String.intercalate ", " columns)])).map .fragment := by
  unfold Builder.orderBy
  split
  · exact (List.append_nil _).symm
  · exact clauses_add_of_clause? rfl b

theorem build_of_clauses {b : Builder} {fragments : List Fragment}
    (clauses : b.clauses = fragments.map .fragment) :
    b.build = .ok ((Fragment.trusted " ").join fragments) := by
  rw [build, clauses, Operand.join_fragments]

theorem apply_of_clauses? {step : Step} {added : List Fragment} (given : step.clauses? = some added)
    (b : Builder) :
    ∃ next, step.apply b = .ok next ∧
      next.clauses = b.clauses ++ (filled added).map .fragment := by
  cases step with
  | add e =>
    obtain ⟨o, evaluated, given⟩ := Option.bind_eq_some_iff.mp given
    obtain ⟨clause, clauses, given⟩ := Option.bind_eq_some_iff.mp given
    cases given
    refine ⟨b.add o, ?_, clauses_add_of_clause? clauses b⟩
    rw [Step.apply, evaluate_of_toOption evaluated]
    rfl
  | whereClause e =>
    obtain ⟨o, evaluated, given⟩ := Option.bind_eq_some_iff.mp given
    obtain ⟨clause, clauses, given⟩ := Option.bind_eq_some_iff.mp given
    cases given
    refine ⟨b.whereClause o, ?_, clauses_whereClause_of_clause? clauses b⟩
    rw [Step.apply, evaluate_of_toOption evaluated]
    rfl
  | orderBy columns =>
    cases given
    exact ⟨b.orderBy columns, rfl, clauses_orderBy b columns⟩

theorem clauses_run {steps : List Step} {added : List (List Fragment)}
    (given : steps.mapM Step.clauses? = some added) (b : Builder) :
    (b.run q steps).1.clauses = b.clauses ++ (filled added.flatten).map .fragment := by
  induction steps generalizing added b with
  | nil =>
    cases given
    exact (List.append_nil _).symm
  | cons step steps ih =>
    rw [List.mapM_cons] at given
    obtain ⟨first, clauses, given⟩ := Option.bind_eq_some_iff.mp given
    obtain ⟨rest, more, given⟩ := Option.bind_eq_some_iff.mp given
    cases given
    obtain ⟨next, applied, grown⟩ := apply_of_clauses? clauses b
    rw [Builder.run, applied]
    dsimp only
    rw [ih more next, grown, List.flatten_cons, filled, filled, filled, List.filter_append,
      List.map_append, List.append_assoc]

theorem build_run {steps : List Step} {added : List (List Fragment)}
    (given : steps.mapM Step.clauses? = some added) :
    (Builder.empty.run q steps).1.build = .ok ((Fragment.trusted " ").join added.flatten) := by
  rw [build_of_clauses (clauses_run given Builder.empty), Fragment.join_filled]

end Builder

/-! ### The whole -/

/-- Sums, joins, conjunctions and statements say what their members say, in their order, and
nothing else than the separators between those that have parts. -/
theorem composition (q : Quoting) :
    (∀ f g h : Fragment, f ++ g ++ h = f ++ (g ++ h)) ∧
    (∀ f : Fragment, .empty ++ f = f ∧ f ++ .empty = f) ∧
    (Fragment.empty.literals = [] ∧ Fragment.empty.render q = .ok "") ∧
    (∀ f g : Fragment, (f ++ g).literals = f.literals ++ g.literals ∧
      (f ++ g).render q = do return (← f.render q) ++ (← g.render q)) ∧
    (∀ (separator : Fragment) (fragments : List Fragment),
      separator.join fragments = separator.interleave (filled fragments) ∧
      ∀ text, separator.render q = .ok text → (separator.join fragments).render q =
        String.intercalate text <$> (filled fragments).mapM (·.render q)) ∧
    (∀ options : List (Option Fragment), ∃ f,
      (optionalConjunction options).evaluate = .ok (.fragment f) ∧
      f.literals = (filled options.reduceOption).flatMap Fragment.literals ∧
      f.render q =
        String.intercalate " AND " <$> (filled options.reduceOption).mapM (·.render q)) ∧
    (∀ (steps : List Builder.Step) (added : List (List Fragment)),
      steps.mapM Builder.Step.clauses? = some added → ∃ f,
        (Builder.empty.run q steps).1.build = .ok f ∧
        f.literals = (filled added.flatten).flatMap Fragment.literals ∧
        f.render q = String.intercalate " " <$> (filled added.flatten).mapM (·.render q)) := by
  refine ⟨Fragment.append_assoc, fun f => ⟨f.empty_append, f.append_empty⟩, ⟨rfl, rfl⟩,
    fun f g => ⟨Fragment.literals_append f g, f.render_append g⟩, ?_, ?_, ?_⟩
  · intro separator fragments
    have members := Fragment.join_eq_interleave separator fragments
    refine ⟨members, fun text shown => ?_⟩
    rw [members, Fragment.render_interleave shown]
  · intro options
    exact ⟨_, evaluate_optionalConjunction options, render_join_trusted " AND " _⟩
  · intro steps added given
    exact ⟨_, Builder.build_run given, render_join_trusted " " _⟩

/-- Calls with a text, with fragments that have no parts, and with a condition. -/
def mixedSteps : List Builder.Step :=
  [.add (.operand (.text "SELECT a FROM t")), .add (.operand (.fragment .empty)),
    .whereClause (optionalConjunction [none, some .empty]),
    .whereClause (optionalConjunction [some (matching "a" (.text "o'b")), none,
      some (equality "c" (.text ""))]),
    .orderBy [], .orderBy ["a", "c"]]

theorem composition_mixed : ∃ f,
    (Builder.empty.run .standard mixedSteps).1.build = .ok f ∧
    f.literals = [.text "o'b", .text ""] ∧
    f.render .standard = .ok "SELECT a FROM t WHERE a LIKE 'o''b' AND c = '' ORDER BY a, c" := by
  obtain ⟨f, built, literals, text⟩ := (composition .standard).2.2.2.2.2.2 mixedSteps _ (by rfl)
  refine ⟨f, built, literals.trans (by rfl), text.trans (by rfl)⟩

end SystemCatalog.Sql
