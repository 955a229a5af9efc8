import Mathlib.Data.List.Chain
import SystemCatalog.Proofs.Sql.Reading
import SystemCatalog.Sql.Builder

/-!
# Reading rendered fragments

A fragment whose parts stand apart is read part by part: `tokens?_render` finds the tokens of its
trusted texts and, in the place of every literal part, one literal with the value of that part.
-/

namespace SystemCatalog.Sql

namespace Fragment

theorem intercalate_append_cons {α : Type} (separator a b : List α) (rest : List (List α)) :
    separator.intercalate ((a ++ separator ++ b) :: rest) =
      separator.intercalate (a :: b :: rest) := by
  cases rest <;> simp [List.intercalate_cons_cons]

theorem foldl_join_parts (separator : Fragment) (fragments : List Fragment) (joined : Fragment) :
    (fragments.foldl
      (fun joined f =>
        if f.isEmpty then joined else if joined.isEmpty then f else joined ++ separator ++ f)
      joined).parts =
      separator.parts.intercalate (((joined :: fragments).map parts).filter (!·.isEmpty)) := by
  induction fragments generalizing joined with
  | nil =>
    cases h : joined.parts with
    | nil => simp [h]
    | cons part more => simp [h]
  | cons f fragments ih =>
    rw [List.foldl_cons, ih]
    by_cases empty : f.isEmpty
    · simp only [isEmpty] at empty
      simp [isEmpty, empty, List.filter_cons]
    · by_cases first : joined.isEmpty
      · simp only [isEmpty] at empty first
        simp [isEmpty, empty, first]
      · simp only [isEmpty] at empty first
        have both : (joined.parts ++ separator.parts ++ f.parts).isEmpty = false := by simp_all
        simp only [isEmpty, empty, first, both, Bool.false_eq_true, if_false, List.map_cons,
          List.filter_cons, Bool.not_false, if_true, parts_append, intercalate_append_cons]

theorem parts_join (separator : Fragment) (fragments : List Fragment) :
    (separator.join fragments).parts =
      separator.parts.intercalate ((fragments.map parts).filter (!·.isEmpty)) := by
  rw [join, foldl_join_parts]
  rfl

theorem parts_join_cons (separator f : Fragment) (fragments : List Fragment) :
    (separator.join (f :: fragments)).parts =
      if f.parts = [] then (separator.join fragments).parts
      else if (separator.join fragments).parts = [] then f.parts
      else (f ++ separator ++ separator.join fragments).parts := by
  simp only [parts_append, parts_join, List.map_cons, List.filter_cons]
  by_cases without : f.parts = []
  · simp [without]
  · rw [if_neg without, if_pos (by simpa using without)]
    cases rest : (fragments.map parts).filter (!·.isEmpty) with
    | nil => simp
    | cons second more =>
      have mem : second ∈ (fragments.map parts).filter (!·.isEmpty) := by simp [rest]
      have inhabited : second ≠ [] := by simpa using (List.mem_filter.mp mem).2
      cases more <;> simp [List.intercalate_cons_cons, inhabited]

end Fragment

/-! ### Parts -/

namespace Part

def chars (q : Quoting) : Part → List Char
  | trusted text => text.toList
  | literal (.text s) => q.literalChars s.toList
  | literal _ => []

def tokens (q : Quoting) : Part → List Token
  | trusted text => (q.tokens? text.toList).getD []
  | literal (.text s) => [.literal s.toList]
  | literal _ => []

/-- Whether a part can be rendered, and leaves no literal open. -/
def Legible (q : Quoting) : Part → Prop
  | trusted text => text ≠ "" ∧ (q.tokens? text.toList).isSome
  | literal value => ∃ s, value = .text s ∧ '\x00' ∉ s.toList

variable {q : Quoting}

theorem Legible.render {part : Part} (h : part.Legible q) :
    part.render q = .ok (String.ofList (part.chars q)) := by
  cases part with
  | trusted text => simp [Part.render, chars]
  | literal value =>
    obtain ⟨s, rfl, zero⟩ := h
    exact Quoting.literal_eq zero

theorem Legible.tokens? {part : Part} (h : part.Legible q) :
    q.tokens? (part.chars q) = some (part.tokens q) := by
  cases part with
  | trusted text =>
    obtain ⟨found, read⟩ := Option.isSome_iff_exists.mp h.2
    simp [chars, tokens, read]
  | literal value =>
    obtain ⟨s, rfl, -⟩ := h
    exact Quoting.tokens?_literal s.toList

theorem Legible.chars_ne_nil {part : Part} (h : part.Legible q) : part.chars q ≠ [] := by
  cases part with
  | trusted text => simpa [chars] using h.1
  | literal value =>
    obtain ⟨s, rfl, -⟩ := h
    simp [chars, Quoting.literalChars]

end Part

/-! ### Fragments -/

theorem Apart.append {s t : List Char} (h : Apart s t) (inhabited : t ≠ []) (u : List Char) :
    Apart s (t ++ u) := by
  rcases h with head | last
  · left
    rwa [List.head?_append_of_ne_nil _ inhabited]
  · exact Or.inr last

def Part.Precedes (q : Quoting) (part next : Part) : Prop :=
  part.Legible q → next.Legible q → ∀ more,
    q.tokens? (part.chars q ++ (next.chars q ++ more)) =
      (q.tokens? (next.chars q ++ more)).map (part.tokens q ++ ·)

theorem Part.precedes_of_apart {q : Quoting} {part next : Part}
    (apart : Apart (part.chars q) (next.chars q)) : part.Precedes q next := by
  intro legible legible' more
  exact Quoting.tokens?_append legible.tokens? (apart.append legible'.chars_ne_nil more)

namespace Fragment

variable {q : Quoting}

theorem render_legible {parts : List Part} (legible : ∀ part ∈ parts, part.Legible q) :
    render q ⟨parts⟩ = .ok (String.ofList (parts.flatMap (·.chars q))) := by
  have texts : parts.mapM (·.render q) =
      Except.ok (parts.map fun part => String.ofList (part.chars q)) := by
    induction parts with
    | nil => rfl
    | cons part parts ih =>
      rw [List.mapM_cons, (legible part (by simp)).render,
        ih fun other mem => legible other (List.mem_cons_of_mem _ mem)]
      rfl
  rw [render, texts]
  refine congrArg Except.ok (String.toList_inj.mp ?_)
  simp [String.toList_join, List.flatMap_map]

theorem tokens?_chain {parts : List Part} (legible : ∀ part ∈ parts, part.Legible q)
    (chain : parts.IsChain (Part.Precedes q)) :
    q.tokens? (parts.flatMap (·.chars q)) = some (parts.flatMap (·.tokens q)) := by
  induction parts with
  | nil => rfl
  | cons part parts ih =>
    have rest := ih (fun other mem => legible other (List.mem_cons_of_mem _ mem)) chain.tail
    rw [List.flatMap_cons, List.flatMap_cons]
    cases parts with
    | nil => simpa using (legible part (by simp)).tokens?
    | cons next parts =>
      rw [List.flatMap_cons] at rest ⊢
      rw [(List.isChain_cons_cons.mp chain).1 (legible part (by simp)) (legible next (by simp)),
        rest]
      rfl

theorem tokens?_render {parts : List Part} (legible : ∀ part ∈ parts, part.Legible q)
    (apart : parts.IsChain fun part next => Apart (part.chars q) (next.chars q)) :
    q.tokens? (parts.flatMap (·.chars q)) = some (parts.flatMap (·.tokens q)) :=
  tokens?_chain legible (apart.imp fun _ _ => Part.precedes_of_apart)

end Fragment

end SystemCatalog.Sql
