import SystemCatalog.Catalog.Shape
import SystemCatalog.Proofs.Sql.Fragment

/-!
# Sketches of statements

A sketch is a statement whose patterns are left open.  Two fragments are `Parallel` when one sketch
gives both, each with the patterns of its own lookup; conditions, conjunctions and clauses keep
fragments parallel, and parallel fragments are read alike.
-/

namespace SystemCatalog.Catalog

open Sql

inductive Piece where
  | trusted (text : String)
  | argument (a : Argument)

namespace Piece

def part (f : Filters) : Piece → Part
  | trusted text => .trusted text
  | argument a => .literal (f.value a)

def argument? : Piece → Option Argument
  | trusted _ => none
  | argument a => some a

def slots (q : Quoting) : Piece → List Slot
  | trusted text => (((q.tokens? text.toList).getD []).filterMap Token.literal?).map .fixed
  | argument a => [.argument a]

/-- Whether the piece is read alone whatever stands in front of it. -/
def Begins : Piece → Prop
  | trusted text => ∀ c ∈ text.toList.head?, Plain c
  | argument _ => False

def Ends : Piece → Prop
  | trusted text => ∃ c ∈ text.toList.getLast?, Neutral c
  | argument _ => False

def Joins (piece next : Piece) : Prop := piece.Ends ∨ next.Begins

variable {q : Quoting} {f : Filters}

theorem Joins.apart {piece next : Piece} (joins : piece.Joins next) :
    Apart ((piece.part f).chars q) ((next.part f).chars q) := by
  rcases joins with ends | begins
  · cases piece with
    | trusted text => exact Or.inr ends
    | argument a => exact ends.elim
  · cases next with
    | trusted text => exact Or.inl begins
    | argument a => exact begins.elim

theorem outside_tokens (f g : Filters) (piece : Piece) (left : (piece.part f).Legible q)
    (right : (piece.part g).Legible q) :
    ((piece.part f).tokens q).map Token.outside? =
      ((piece.part g).tokens q).map Token.outside? := by
  cases piece with
  | trusted text => rfl
  | argument a =>
    obtain ⟨s, eq, -⟩ := left
    obtain ⟨t, eq', -⟩ := right
    simp [part, eq, eq', Part.tokens, Token.outside?]

theorem literals_tokens (piece : Piece) (legible : (piece.part f).Legible q) :
    Query.literals ((piece.part f).tokens q) = (piece.slots q).map (Slot.value f) := by
  cases piece with
  | trusted text =>
    simp only [Query.literals, part, Part.tokens, slots, List.map_map]
    rfl
  | argument a =>
    obtain ⟨s, eq, -⟩ := legible
    simp [Query.literals, part, eq, Part.tokens, slots, Slot.value, Token.literal?]

theorem argument?_slots (piece : Piece) :
    (piece.slots q).filterMap Slot.argument? = piece.argument?.toList := by
  cases piece with
  | trusted text => simp [slots, argument?, List.filterMap_map, Function.comp_def, Slot.argument?]
  | argument a => rfl

end Piece

structure Separates (q : Quoting) (separator : String) : Prop where
  legible : (Part.trusted separator).Legible q
  begins : (Piece.trusted separator).Begins
  ends : (Piece.trusted separator).Ends

/-- A sketch that gives one fragment for the lookup `f` and another for the lookup `g`. -/
structure Sketch (q : Quoting) (f g : Filters) (F G : Fragment) (pieces : List Piece) : Prop where
  left : F.parts = pieces.map (·.part f)
  right : G.parts = pieces.map (·.part g)
  legible : ∀ piece ∈ pieces, (piece.part f).Legible q ∧ (piece.part g).Legible q
  joined : pieces.IsChain Piece.Joins

/-- Whether one sketch gives both fragments; `arguments` are its patterns. -/
def Parallel (q : Quoting) (f g : Filters) (arguments : List Argument) (F G : Fragment) : Prop :=
  ∃ pieces, Sketch q f g F G pieces ∧ pieces.filterMap Piece.argument? = arguments

variable {q : Quoting} {f g : Filters}

namespace Sketch

variable {F G F' G' : Fragment} {pieces more : List Piece}

theorem append (first : Sketch q f g F G pieces) (second : Sketch q f g F' G' more)
    (joins : ∀ piece ∈ pieces.getLast?, ∀ next ∈ more.head?, piece.Joins next) :
    Sketch q f g (F ++ F') (G ++ G') (pieces ++ more) where
  left := by rw [Fragment.parts_append, first.left, second.left, List.map_append]
  right := by rw [Fragment.parts_append, first.right, second.right, List.map_append]
  legible := by
    intro piece mem
    rcases List.mem_append.mp mem with mem | mem
    · exact first.legible piece mem
    · exact second.legible piece mem
  joined := List.isChain_append.mpr ⟨first.joined, second.joined, joins⟩

theorem isEmpty_left (h : Sketch q f g F G pieces) : F.parts = [] ↔ pieces = [] := by
  rw [h.left, List.map_eq_nil_iff]

theorem isEmpty_right (h : Sketch q f g F G pieces) : G.parts = [] ↔ pieces = [] := by
  rw [h.right, List.map_eq_nil_iff]

theorem render (h : Sketch q f g F G pieces) :
    ∃ s t, F.render q = .ok s ∧ G.render q = .ok t ∧
      q.tokens? s.toList = some (pieces.flatMap fun piece => (piece.part f).tokens q) ∧
      q.tokens? t.toList = some (pieces.flatMap fun piece => (piece.part g).tokens q) := by
  have apart : ∀ k : Filters, (pieces.map (·.part k)).IsChain fun part next =>
      Apart (part.chars q) (next.chars q) := by
    intro k
    exact (List.isChain_map _).mpr (h.joined.imp fun _ _ joins => joins.apart)
  have legible : ∀ part ∈ F.parts, part.Legible q := by
    rw [h.left]
    intro part mem
    obtain ⟨piece, drawn, rfl⟩ := List.mem_map.mp mem
    exact (h.legible piece drawn).1
  have legible' : ∀ part ∈ G.parts, part.Legible q := by
    rw [h.right]
    intro part mem
    obtain ⟨piece, drawn, rfl⟩ := List.mem_map.mp mem
    exact (h.legible piece drawn).2
  refine ⟨_, _, Fragment.render_legible legible, Fragment.render_legible legible', ?_, ?_⟩
  · rw [String.toList_ofList, Fragment.tokens?_render legible (by rw [h.left]; exact apart f),
      h.left, List.flatMap_map]
  · rw [String.toList_ofList, Fragment.tokens?_render legible' (by rw [h.right]; exact apart g),
      h.right, List.flatMap_map]

end Sketch

namespace Parallel

variable {F G F' G' : Fragment} {a b : List Argument}

theorem readAlike (h : Parallel q f g a F G) :
    ∃ s t, F.render q = .ok s ∧ G.render q = .ok t ∧ Query.ReadAlike q a f g s t := by
  obtain ⟨pieces, sketch, rfl⟩ := h
  obtain ⟨s, t, rendered, rendered', tokens, tokens'⟩ := sketch.render
  refine ⟨s, t, rendered, rendered', _, _, pieces.flatMap (·.slots q), tokens, tokens', ?_⟩
  have legible := sketch.legible
  clear sketch tokens tokens' rendered rendered'
  induction pieces with
  | nil => exact ⟨rfl, rfl, rfl, rfl⟩
  | cons piece pieces ih =>
    obtain ⟨outside, literals, literals', arguments⟩ :=
      ih fun other mem => legible other (List.mem_cons_of_mem _ mem)
    obtain ⟨left, right⟩ := legible piece List.mem_cons_self
    simp only [List.flatMap_cons, List.map_append, List.filterMap_append]
    refine ⟨?_, ?_, ?_, ?_⟩
    · rw [outside, piece.outside_tokens f g left right]
    · rw [← piece.literals_tokens left, ← literals]
      simp [Query.literals]
    · rw [← piece.literals_tokens right, ← literals']
      simp [Query.literals]
    · rw [arguments, piece.argument?_slots, List.filterMap_cons]
      cases piece.argument? <;> rfl

theorem parts_eq (h : Parallel q f g a F G) (same : ∀ x ∈ a, f.value x = g.value x) :
    F.parts = G.parts := by
  obtain ⟨pieces, sketch, rfl⟩ := h
  rw [sketch.left, sketch.right]
  apply List.map_congr_left
  intro piece mem
  cases piece with
  | trusted text => rfl
  | argument x =>
    have read : x ∈ pieces.filterMap Piece.argument? := List.mem_filterMap.mpr ⟨_, mem, rfl⟩
    simp only [Piece.part, same x read]

theorem empty : Parallel q f g [] .empty .empty :=
  ⟨[], ⟨rfl, rfl, by simp, List.isChain_nil⟩, rfl⟩

theorem trusted {text : String} (legible : (Part.trusted text).Legible q) :
    Parallel q f g [] (.trusted text) (.trusted text) :=
  ⟨[.trusted text], ⟨rfl, rfl, by simpa [Piece.part] using legible, List.isChain_singleton _⟩, rfl⟩

theorem operator {text : String} (legible : (Part.trusted text).Legible q)
    (ends : (Piece.trusted text).Ends) {x : Argument} (left : Writable (f.value x))
    (right : Writable (g.value x)) :
    Parallel q f g [x] (.trusted text ++ .literal (f.value x))
      (.trusted text ++ .literal (g.value x)) := by
  refine ⟨[.trusted text, .argument x], ⟨rfl, rfl, ?_, ?_⟩, rfl⟩
  · intro piece mem
    rcases List.mem_cons.mp mem with rfl | mem
    · exact ⟨legible, legible⟩
    · obtain rfl := List.mem_singleton.mp mem
      exact ⟨left, right⟩
  · exact List.isChain_cons_cons.mpr ⟨Or.inl ends, List.isChain_singleton _⟩

theorem separated {separator : String} (alone : Separates q separator)
    (first : Parallel q f g a F G) (second : Parallel q f g b F' G') :
    Parallel q f g (a ++ b) (F ++ .trusted separator ++ F') (G ++ .trusted separator ++ G') := by
  obtain ⟨pieces, sketch, rfl⟩ := first
  obtain ⟨more, sketch', rfl⟩ := second
  have middle : Sketch q f g (.trusted separator) (.trusted separator) [.trusted separator] :=
    ⟨rfl, rfl, by simpa [Piece.part] using alone.legible, List.isChain_singleton _⟩
  refine ⟨(pieces ++ [.trusted separator]) ++ more, ?_,
    by simp [List.filterMap_cons, Piece.argument?]⟩
  refine (sketch.append middle ?_).append sketch' ?_
  · intro piece _ next mem
    obtain rfl : Piece.trusted separator = next := by simpa using mem
    exact Or.inr alone.begins
  · intro piece mem next _
    obtain rfl : Piece.trusted separator = piece := by simpa using mem
    exact Or.inl alone.ends

/-! ### Joined fragments -/

theorem nil_iff (h : Parallel q f g a F G) : F.parts = [] ↔ G.parts = [] := by
  obtain ⟨pieces, sketch, -⟩ := h
  rw [sketch.isEmpty_left, sketch.isEmpty_right]

theorem arguments_nil (h : Parallel q f g a F G) (without : F.parts = []) : a = [] := by
  obtain ⟨pieces, sketch, rfl⟩ := h
  rw [sketch.isEmpty_left.mp without]
  rfl

theorem congr (h : Parallel q f g a F G) (left : F'.parts = F.parts) (right : G'.parts = G.parts) :
    Parallel q f g a F' G' := by
  obtain ⟨pieces, sketch, drawn⟩ := h
  exact ⟨pieces, { sketch with left := left.trans sketch.left, right := right.trans sketch.right },
    drawn⟩

theorem join_cons {separator : String} (alone : Separates q separator)
    {fragments others : List Fragment} (first : Parallel q f g a F G)
    (rest : Parallel q f g b ((Fragment.trusted separator).join fragments)
      ((Fragment.trusted separator).join others)) :
    Parallel q f g (a ++ b) ((Fragment.trusted separator).join (F :: fragments))
      ((Fragment.trusted separator).join (G :: others)) := by
  have left := Fragment.parts_join_cons (.trusted separator) F fragments
  have right := Fragment.parts_join_cons (.trusted separator) G others
  by_cases without : F.parts = []
  · rw [if_pos without] at left
    rw [if_pos (first.nil_iff.mp without)] at right
    rw [first.arguments_nil without]
    exact rest.congr left right
  · rw [if_neg without] at left
    rw [if_neg (without ∘ first.nil_iff.mpr)] at right
    by_cases last : ((Fragment.trusted separator).join fragments).parts = []
    · rw [if_pos last] at left
      rw [if_pos (rest.nil_iff.mp last)] at right
      rw [rest.arguments_nil last, List.append_nil]
      exact first.congr left right
    · rw [if_neg last] at left
      rw [if_neg (last ∘ rest.nil_iff.mpr)] at right
      exact (first.separated alone rest).congr left right

end Parallel

inductive AllParallel (q : Quoting) (f g : Filters) :
    List Argument → List Fragment → List Fragment → Prop where
  | nil : AllParallel q f g [] [] []
  | cons {a b : List Argument} {F G : Fragment} {fragments others : List Fragment}
      (first : Parallel q f g a F G) (rest : AllParallel q f g b fragments others) :
      AllParallel q f g (a ++ b) (F :: fragments) (G :: others)

namespace AllParallel

variable {a b : List Argument} {fragments others : List Fragment}

theorem concat {F G : Fragment} (h : AllParallel q f g a fragments others)
    (last : Parallel q f g b F G) :
    AllParallel q f g (a ++ b) (fragments ++ [F]) (others ++ [G]) := by
  induction h with
  | nil =>
    have single := cons last nil
    rwa [List.append_nil] at single
  | cons first _ ih =>
    rw [List.append_assoc]
    exact cons first ih

theorem join {separator : String} (alone : Separates q separator)
    (h : AllParallel q f g a fragments others) :
    Parallel q f g a ((Fragment.trusted separator).join fragments)
      ((Fragment.trusted separator).join others) := by
  induction h with
  | nil => exact .empty
  | cons first _ ih => exact first.join_cons alone ih

end AllParallel

end SystemCatalog.Catalog
