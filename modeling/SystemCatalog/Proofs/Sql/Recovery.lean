import SystemCatalog.Proofs.Sql.Composition

/-!
# Recovering values from rendered fragments

A fragment whose literals are kept apart by its texts is read as these texts and, in the place of
each literal, its value: `render_recovers`.  Adjacent texts are read as one.
-/

namespace SystemCatalog.Sql

variable {q : Quoting}

/-! ### Runs of texts -/

def Part.prepend : Part → List Part → List Part
  | .trusted s, .trusted t :: rest => .trusted (s ++ t) :: rest
  | part, rest => part :: rest

namespace Fragment

/-- The parts of a fragment, with every run of adjacent texts as one text. -/
def runs (f : Fragment) : List Part := f.parts.foldr Part.prepend []

theorem render_prepend (part : Part) (parts : List Part) :
    render q ⟨part.prepend parts⟩ = render q ⟨part :: parts⟩ := by
  unfold Part.prepend
  split
  · next s t rest =>
    have joined : (Part.trusted (s ++ t)).render q = pure (s ++ t) := rfl
    have first : (Part.trusted s).render q = pure s := rfl
    have second : (Part.trusted t).render q = pure t := rfl
    rw [render_cons, render_cons, render_cons, joined, first, second]
    simp only [pure_bind, bind_assoc, String.append_assoc]
  · rfl

theorem render_runs (f : Fragment) : render q ⟨f.runs⟩ = f.render q := by
  obtain ⟨parts⟩ := f
  induction parts with
  | nil => rfl
  | cons part parts ih =>
    have first : runs ⟨part :: parts⟩ = part.prepend (runs ⟨parts⟩) := rfl
    rw [first, render_prepend, render_cons, render_cons, ih]

theorem literals_prepend (part : Part) (parts : List Part) :
    literals ⟨part.prepend parts⟩ = literals ⟨part :: parts⟩ := by
  unfold Part.prepend
  split
  · rfl
  · rfl

theorem literals_runs (f : Fragment) : literals ⟨f.runs⟩ = f.literals := by
  obtain ⟨parts⟩ := f
  induction parts with
  | nil => rfl
  | cons part parts ih =>
    have first : runs ⟨part :: parts⟩ = part.prepend (runs ⟨parts⟩) := rfl
    rw [first, literals_prepend]
    simp only [literals, List.filterMap_cons] at ih ⊢
    rw [ih]

/-- Whether one of two parts is a literal. -/
def Alternate (part next : Part) : Prop := part.value?.isSome ∨ next.value?.isSome

theorem isChain_prepend {parts : List Part} (part : Part) (chain : parts.IsChain Alternate) :
    (part.prepend parts).IsChain Alternate := by
  cases parts with
  | nil =>
    cases part with
    | trusted s => exact List.isChain_singleton _
    | literal value => exact List.isChain_singleton _
  | cons next rest =>
    cases part with
    | literal value => exact List.isChain_cons_cons.mpr ⟨Or.inl rfl, chain⟩
    | trusted s =>
      cases next with
      | literal value => exact List.isChain_cons_cons.mpr ⟨Or.inr rfl, chain⟩
      | trusted t =>
        -- The longer text stands in front of what its second half stood in front of.
        cases rest with
        | nil => exact List.isChain_singleton _
        | cons last rest =>
          obtain ⟨first, others⟩ := List.isChain_cons_cons.mp chain
          exact List.isChain_cons_cons.mpr ⟨first, others⟩

theorem isChain_runs (f : Fragment) : f.runs.IsChain Alternate := by
  obtain ⟨parts⟩ := f
  induction parts with
  | nil => exact List.isChain_nil
  | cons part parts ih => exact isChain_prepend part ih

end Fragment

/-! ### Parts that do not run into each other -/

/-- Whether two adjacent parts are kept apart: literals do not touch, no text behind a literal
begins with an apostrophe, and none in front of a literal ends with an apostrophe or in a word. -/
def Part.KeptApart : Part → Part → Prop
  | .literal _, .literal _ => False
  | .literal _, .trusted text => text.toList.head? ≠ some '\''
  | .trusted text, .literal _ => ∀ c ∈ text.toList.getLast?, c ≠ '\'' ∧ isWord c = false
  | .trusted _, .trusted _ => True

theorem Part.precedes_of_keptApart {part next : Part} (apart : part.KeptApart next)
    (alternate : Fragment.Alternate part next) : part.Precedes q next := by
  intro legible legible' more
  cases part with
  | literal value =>
    obtain ⟨s, rfl, -⟩ := legible
    cases next with
    | literal other => exact apart.elim
    | trusted text =>
      apply Quoting.tokens?_literal_append
      rw [List.head?_append_of_ne_nil _ legible'.chars_ne_nil]
      exact apart
  | trusted text =>
    cases next with
    | trusted other => exact (alternate.elim Bool.false_ne_true Bool.false_ne_true).elim
    | literal value =>
      have last := List.getLast?_eq_some_getLast legible.chars_ne_nil
      exact precedes_of_apart (Or.inr ⟨_, last, apart _ last⟩) legible legible' more

/-- Whether the texts of a fragment keep its literals apart and are each read to their end. -/
structure Fragment.Spaced (q : Quoting) (f : Fragment) : Prop where
  texts : ∀ text, Part.trusted text ∈ f.runs → text ≠ "" ∧ (q.tokens? text.toList).isSome = true
  apart : f.runs.IsChain Part.KeptApart

namespace Fragment

variable {f : Fragment} {values : List String}

theorem Spaced.legible (spaced : f.Spaced q) (given : f.literals = values.map .text)
    (zero : ∀ value ∈ values, '\x00' ∉ value.toList) : ∀ part ∈ f.runs, part.Legible q := by
  intro part mem
  cases part with
  | trusted text => exact spaced.texts text mem
  | literal value =>
    have drawn : value ∈ f.literals := by
      rw [← literals_runs]
      exact List.mem_filterMap.mpr ⟨_, mem, rfl⟩
    rw [given] at drawn
    obtain ⟨s, inside, rfl⟩ := List.mem_map.mp drawn
    exact ⟨s, rfl, zero s inside⟩

theorem Spaced.precedes (spaced : f.Spaced q) : f.runs.IsChain (Part.Precedes q) := by
  have apart := List.isChain_iff_forall_rel_of_append_cons_cons.mp spaced.apart
  have alternate := List.isChain_iff_forall_rel_of_append_cons_cons.mp f.isChain_runs
  exact List.isChain_iff_forall_rel_of_append_cons_cons.mpr fun _ _ _ _ split =>
    Part.precedes_of_keptApart (apart split) (alternate split)

/-! ### Values in the places of literals -/

/-- What stands in the places of the literals, for a reader who knows the texts: each text takes as
many tokens as it is read as alone, and each literal takes one. -/
def recovered (q : Quoting) : List Part → List Token → List (Option String)
  | [], _ => []
  | .trusted text :: parts, tokens =>
    recovered q parts (tokens.drop ((Part.trusted text).tokens q).length)
  | .literal _ :: parts, tokens =>
    tokens.head?.bind Token.literal? :: recovered q parts tokens.tail

theorem recovered_tokens {parts : List Part} (given : literals ⟨parts⟩ = values.map .text) :
    recovered q parts (parts.flatMap (·.tokens q)) = values.map some := by
  induction parts generalizing values with
  | nil =>
    obtain rfl : values = [] := List.map_eq_nil_iff.mp given.symm
    rfl
  | cons part parts ih =>
    rw [List.flatMap_cons]
    cases part with
    | trusted text =>
      rw [recovered, List.drop_left]
      exact ih given
    | literal value =>
      obtain ⟨s, values, rfl, rfl, rest⟩ := List.map_eq_cons_iff.mp given.symm
      rw [List.map_cons, ← ih rest.symm]
      simp [recovered, Part.tokens, Token.literal?]

/-! ### Zero characters -/

theorem literal_eq_error {s : String} (zero : '\x00' ∈ s.toList) :
    q.literal s = .error .zeroByte := by
  rw [Quoting.literal, Quoting.escape, if_pos (List.contains_iff_mem.mpr zero)]
  rfl

theorem render_eq_error {parts : List Part} (given : literals ⟨parts⟩ = values.map .text)
    (zero : ∃ value ∈ values, '\x00' ∈ value.toList) : render q ⟨parts⟩ = .error .zeroByte := by
  induction parts generalizing values with
  | nil =>
    obtain rfl : values = [] := List.map_eq_nil_iff.mp given.symm
    simp at zero
  | cons part parts ih =>
    rw [render_cons]
    cases part with
    | trusted text =>
      rw [ih given zero]
      rfl
    | literal value =>
      obtain ⟨s, values, rfl, rfl, rest⟩ := List.map_eq_cons_iff.mp given.symm
      by_cases first : '\x00' ∈ s.toList
      · rw [Part.render, Quoting.literalValue, literal_eq_error first]
        rfl
      · have later : ∃ value ∈ values, '\x00' ∈ value.toList := by
          obtain ⟨value, mem, inside⟩ := zero
          rcases List.mem_cons.mp mem with rfl | mem
          · exact absurd inside first
          · exact ⟨value, mem, inside⟩
        rw [Part.render, Quoting.literalValue, Quoting.literal_eq first, ih rest.symm later]
        rfl

/-- The values of a fragment whose texts keep them apart are recovered from what is rendered, and
only a zero character in one of them keeps a fragment from being rendered. -/
theorem render_recovers (q : Quoting) (f : Fragment) (values : List String)
    (given : f.literals = values.map .text) :
    ((∃ value ∈ values, '\x00' ∈ value.toList) →
      f.render q = .error .zeroByte ∧ Fault.zeroByte.family = .value) ∧
    ((∀ value ∈ values, '\x00' ∉ value.toList) → f.Spaced q → ∃ text tokens,
      f.render q = .ok text ∧ q.tokens? text.toList = some tokens ∧
      tokens = f.runs.flatMap (·.tokens q) ∧ recovered q f.runs tokens = values.map some) := by
  have parts : literals ⟨f.parts⟩ = values.map .text := given
  refine ⟨fun zero => ⟨render_eq_error parts zero, rfl⟩, fun zero spaced => ?_⟩
  have legible := spaced.legible given zero
  have rendered : f.render q = .ok (String.ofList (f.runs.flatMap (·.chars q))) := by
    rw [← render_runs, render_legible legible]
  refine ⟨_, _, rendered, ?_, rfl, recovered_tokens ((literals_runs f).trans given)⟩
  rw [String.toList_ofList, tokens?_chain legible spaced.precedes]

/-- Literals with an apostrophe and a backslash, and a text that begins right behind one of them
with the letter that marks literals. -/
def marked : Fragment :=
  ⟨[.trusted "a LIKE ", .literal (.text "o'b\\"), .trusted "ESCAPE '!' OR b", .trusted " = ",
    .literal (.text "'")]⟩

theorem spaced_marked : marked.Spaced .escaping where
  texts := by
    intro text mem
    have drawn : text = "a LIKE " ∨ text = "ESCAPE '!' OR b = " := by
      simpa [runs, marked, Part.prepend] using mem
    rcases drawn with rfl | rfl
    · exact ⟨by decide, by decide⟩
    · exact ⟨by decide, by decide⟩
  apart := by
    refine List.isChain_cons_cons.mpr ⟨?_, List.isChain_cons_cons.mpr ⟨?_,
      List.isChain_cons_cons.mpr ⟨?_, List.isChain_singleton _⟩⟩⟩
    · rintro c last
      cases last
      decide
    · exact (by decide : "ESCAPE '!' OR b = ".toList.head? ≠ some '\'')
    · rintro c last
      cases last
      decide

theorem render_recovers_marked :
    (∃ text tokens, marked.render .escaping = .ok text ∧
      Quoting.escaping.tokens? text.toList = some tokens ∧
      tokens = marked.runs.flatMap (·.tokens .escaping) ∧
      recovered .escaping marked.runs tokens = [some "o'b\\", some "'"]) ∧
    (Fragment.literal (.text "a\x00")).render .standard = .error .zeroByte :=
  ⟨(render_recovers .escaping marked ["o'b\\", "'"] rfl).2 (by decide) spaced_marked,
    ((render_recovers .standard (.literal (.text "a\x00")) ["a\x00"] rfl).1
      ⟨"a\x00", by simp, by decide⟩).1⟩

end Fragment

end SystemCatalog.Sql
