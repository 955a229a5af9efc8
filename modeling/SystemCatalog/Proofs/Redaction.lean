import Mathlib.Data.List.Basic
import SystemCatalog.Redaction

/-!
# Redacted parameters

Redaction goes through nested values to any depth.  What it leaves has the shape of what it is given
and no sensitive text, and it does not depend on the secrets: `parameters?_masks`.
-/

namespace SystemCatalog

/-! ### Values inside of values -/

namespace Datum

/-- The values right inside of a value: the elements of a sequence, the values of a dictionary. -/
def children : Datum → List Datum
  | list items | tuple items => items
  | dict entries => entries.map (·.2)
  | _ => []

/-- The value that a path leads to, which says at each container which value of it to take. -/
def at? (d : Datum) : List Nat → Option Datum
  | [] => some d
  | i :: path => d.children[i]?.bind fun child => child.at? path

/-- What a value is, but for the values inside of it and for what a text says: its kind, the number
of its elements, its keys in their order, or the value of a number. -/
def outline : Datum → Datum
  | text _ => text ""
  | list items => list (items.map fun _ => null)
  | tuple items => tuple (items.map fun _ => null)
  | dict entries => dict (entries.map fun e => (e.1, null))
  | d => d

def isLeaf : Datum → Bool
  | list _ | tuple _ | dict _ => false
  | _ => true

theorem at?_append (d : Datum) (path more : List Nat) :
    d.at? (path ++ more) = (d.at? path).bind fun inner => inner.at? more := by
  induction path generalizing d with
  | nil => rfl
  | cons i path ih =>
    rw [List.cons_append, at?, at?]
    cases d.children[i]? with
    | none => rfl
    | some child => exact ih child

theorem sizeOf_lt_of_mem_children {d child : Datum} (mem : child ∈ d.children) :
    sizeOf child < sizeOf d := by
  cases d with
  | list items =>
    have smaller : sizeOf child < sizeOf items := List.sizeOf_lt_of_mem mem
    rw [list.sizeOf_spec]
    omega
  | tuple items =>
    have smaller : sizeOf child < sizeOf items := List.sizeOf_lt_of_mem mem
    rw [tuple.sizeOf_spec]
    omega
  | dict entries =>
    obtain ⟨⟨key, value⟩, inside, rfl⟩ := List.mem_map.mp mem
    have smaller : sizeOf (key, value) < sizeOf entries := List.sizeOf_lt_of_mem inside
    rw [Prod.mk.sizeOf_spec] at smaller
    rw [dict.sizeOf_spec]
    dsimp only
    omega
  | _ => cases mem

theorem length_children_outline (d : Datum) : d.outline.children.length = d.children.length := by
  cases d with
  | list items => exact List.length_map _
  | tuple items => exact List.length_map _
  | dict entries => simp only [outline, children, List.length_map]
  | _ => rfl

/-- A value is known by its outline and the values right inside of it, or by what it says. -/
theorem ext_children {c d : Datum} (shape : c.outline = d.outline)
    (inner : c.children = d.children) (said : ∀ s t, c = text s → d = text t → s = t) : c = d := by
  cases c with
  | text s =>
    cases d with
    | text t => rw [said s t rfl rfl]
    | _ => cases shape
  | list items =>
    cases d with
    | list others => exact congrArg list inner
    | _ => cases shape
  | tuple items =>
    cases d with
    | tuple others => exact congrArg tuple inner
    | _ => cases shape
  | dict entries =>
    cases d with
    | dict others =>
      have keys : entries.map (·.1) = others.map (·.1) := by
        have pairs := congrArg (List.map Prod.fst) (dict.inj shape)
        rwa [List.map_map, List.map_map] at pairs
      exact congrArg dict ((List.zip_of_prod keys inner).trans (List.zip_of_prod rfl rfl).symm)
    | _ => cases shape
  | _ =>
    cases d <;> cases shape
    rfl

/-- What holds of a value if it holds of all values right inside of it, holds of every value. -/
@[elab_as_elim]
theorem inward {motive : Datum → Prop}
    (step : ∀ d, (∀ child ∈ d.children, motive child) → motive d) (d : Datum) : motive d :=
  step d fun child _ => inward step child
termination_by sizeOf d
decreasing_by exact sizeOf_lt_of_mem_children ‹_›

end Datum

namespace Redaction

open Datum (outline)

variable {c d : Datum} {path : List Nat} {i : Nat}

/-! ### Redaction container by container -/

theorem values_eq (items : List Datum) : values items = items.map value := by
  induction items with
  | nil => rfl
  | cons d items ih => rw [values, ih, List.map_cons]

/-- An entry whose key is sensitive has the masking value, and any other its own value, redacted. -/
def entry (e : Datum × Datum) : Datum × Datum :=
  (e.1, if isSensitive e.1.plain then .text mask else value e.2)

theorem entryValues_eq (entries : List (Datum × Datum)) :
    options (entryValues entries) = entries.map entry := by
  have inner : entryValues entries = entries.map fun e => (e.1, value e.2) := by
    induction entries with
    | nil => rfl
    | cons e entries ih => rw [entryValues, ih, List.map_cons]
  rw [options, maskEntries, inner, List.map_map]
  rfl

theorem value_list (items : List Datum) : value (.list items) = .list (items.map value) := by
  rw [value, values_eq]

theorem value_tuple (items : List Datum) : value (.tuple items) = .tuple (items.map value) := by
  rw [value, values_eq]

theorem value_dict (entries : List (Datum × Datum)) :
    value (.dict entries) = .dict (entries.map entry) := by
  rw [value, entryValues_eq]

theorem isSensitive_mask : isSensitive mask = false := by decide

theorem eq_text_of_value {s : String} (text : value d = .text s) :
    ∃ t, d = .text t ∧ s = if isSensitive t then mask else t := by
  cases d with
  | text t =>
    rw [value, Datum.text.injEq] at text
    exact ⟨t, rfl, text.symm⟩
  | list items => rw [value_list] at text; cases text
  | tuple items => rw [value_tuple] at text; cases text
  | dict entries => rw [value_dict] at text; cases text
  | _ => cases text

/-! ### Places of values -/

def hides : Datum → Nat → Bool
  | .dict entries, i => entries[i]?.any fun e => isSensitive e.1.plain
  | _, _ => false

def isGuarded (d : Datum) : List Nat → Bool
  | [] => false
  | i :: path => hides d i || d.children[i]?.any fun child => isGuarded child path

theorem children_value (d : Datum) (i : Nat) :
    (value d).children[i]? =
      if hides d i then some (.text mask) else d.children[i]?.map value := by
  cases d with
  | list items => rw [value_list]; exact List.getElem?_map
  | tuple items => rw [value_tuple]; exact List.getElem?_map
  | dict entries =>
    simp only [value_dict, Datum.children, hides, List.getElem?_map]
    cases entries[i]? with
    | none => rfl
    | some e =>
      simp only [Option.map_some, Option.any_some, entry]
      split <;> rfl
  | _ => rfl

theorem not_hides (free : isGuarded d (i :: path) = false) : hides d i = false :=
  (Bool.or_eq_false_iff.mp free).1

theorem not_isGuarded_child (free : isGuarded d (i :: path) = false)
    (child : d.children[i]? = some c) : isGuarded c path = false := by
  have inner := (Bool.or_eq_false_iff.mp free).2
  rwa [child] at inner

/-- Outside of sensitive keys, redaction keeps the places of all values. -/
theorem at?_value (free : isGuarded d path = false) :
    (value d).at? path = (d.at? path).map value := by
  induction path generalizing d with
  | nil => rfl
  | cons i path ih =>
    rw [Datum.at?, Datum.at?, children_value, not_hides free, if_neg Bool.false_ne_true]
    cases inner : d.children[i]? with
    | none => rfl
    | some child => exact ih (not_isGuarded_child free inner)

theorem at?_value_hidden (free : isGuarded d path = false) (inner : d.at? path = some c)
    (hidden : hides c i = true) : (value d).at? (path ++ [i]) = some (.text mask) := by
  rw [Datum.at?_append, at?_value free, inner, Option.map_some, Option.bind_some, Datum.at?,
    children_value, if_pos hidden]
  rfl

/-- No text is sensitive after redaction, wherever it stands. -/
theorem isSensitive_of_at?_value {s : String} (found : (value d).at? path = some (.text s)) :
    isSensitive s = false := by
  induction path generalizing d with
  | nil =>
    obtain ⟨t, -, rfl⟩ := eq_text_of_value (Option.some_inj.mp found)
    split
    · exact isSensitive_mask
    · next plain => exact Bool.eq_false_iff.mpr plain
  | cons i path ih =>
    rw [Datum.at?, children_value] at found
    split at found
    · -- Under a sensitive key stands the mask, and no path leads into a text.
      cases path with
      | nil =>
        cases found
        exact isSensitive_mask
      | cons j path => cases found
    · cases inner : d.children[i]? with
      | none =>
        rw [inner] at found
        cases found
      | some child =>
        rw [inner] at found
        exact ih found

/-! ### Shape -/

theorem outline_value (d : Datum) : (value d).outline = d.outline := by
  cases d with
  | list items =>
    rw [value_list, outline, outline, List.map_map]
    rfl
  | tuple items =>
    rw [value_tuple, outline, outline, List.map_map]
    rfl
  | dict entries =>
    rw [value_dict, outline, outline, List.map_map]
    rfl
  | text s => rfl
  | _ => rfl

theorem value_of_isLeaf (leaf : d.isLeaf = true)
    (plain : ∀ s, d = .text s → isSensitive s = false) : value d = d := by
  cases d with
  | text s =>
    rw [value, if_neg (Bool.eq_false_iff.mp (plain s rfl))]
  | list items => cases leaf
  | tuple items => cases leaf
  | dict entries => cases leaf
  | _ => rfl

theorem value_value (d : Datum) : value (value d) = value d := by
  induction d using Datum.inward with
  | step d ih =>
  cases d with
  | text s =>
    apply value_of_isLeaf rfl
    rintro t eq
    exact @isSensitive_of_at?_value (.text s) [] t (congrArg some eq)
  | list items =>
    rw [value_list, value_list, List.map_map]
    exact congrArg Datum.list (List.map_congr_left ih)
  | tuple items =>
    rw [value_tuple, value_tuple, List.map_map]
    exact congrArg Datum.tuple (List.map_congr_left ih)
  | dict entries =>
    rw [value_dict, value_dict, List.map_map]
    refine congrArg Datum.dict (List.map_congr_left fun e mem => ?_)
    simp only [Function.comp_apply, entry]
    split
    · rfl
    · rw [ih e.2 (List.mem_map_of_mem mem)]
  | _ => rfl

/-! ### Secrets -/

/-- Whether what stands in two places differs at most in what a sensitive text says. -/
def Agree (x y : Option Datum) : Prop :=
  x.map outline = y.map outline ∧ ∀ s t, x = some (.text s) → y = some (.text t) →
    s = t ∨ isSensitive s = true ∧ isSensitive t = true

/-- Whether two values differ at most in sensitive texts and under sensitive keys. -/
def Alike (a b : Datum) : Prop :=
  ∀ path, isGuarded a path = false → Agree (a.at? path) (b.at? path)

variable {a b : Datum}

theorem hides_outline (d : Datum) (i : Nat) : hides d.outline i = hides d i := by
  cases d with
  | dict entries =>
    simp only [outline, hides, List.getElem?_map, Option.any_map]
  | _ => rfl

theorem Alike.outline_eq (alike : Alike a b) : a.outline = b.outline :=
  Option.some_inj.mp (alike [] rfl).1

theorem Alike.child (alike : Alike a b) (free : hides a i = false) (inner : a.children[i]? = some c)
    (other : b.children[i]? = some d) : Alike c d := by
  intro path open'
  have whole : isGuarded a (i :: path) = false := by
    rw [isGuarded, free, inner]
    exact open'
  have agree := alike (i :: path) whole
  rwa [Datum.at?, Datum.at?, inner, other] at agree

theorem Alike.text_eq (alike : Alike a b) {s t : String} (first : value a = .text s)
    (second : value b = .text t) : s = t := by
  obtain ⟨u, rfl, rfl⟩ := eq_text_of_value first
  obtain ⟨v, rfl, rfl⟩ := eq_text_of_value second
  rcases (alike [] rfl).2 u v rfl rfl with same | ⟨sensitive, sensitive'⟩
  · rw [same]
  · rw [if_pos sensitive, if_pos sensitive']

theorem agree_refl (x : Option Datum) : Agree x x := by
  refine ⟨rfl, ?_⟩
  rintro s t rfl same
  exact Or.inl (Datum.text.inj (Option.some_inj.mp same))

theorem child_cases (shape : a.outline = b.outline) (i : Nat) :
    a.children[i]? = none ∧ b.children[i]? = none ∨
      ∃ c d, a.children[i]? = some c ∧ b.children[i]? = some d := by
  have count : a.children.length = b.children.length := by
    rw [← Datum.length_children_outline a, shape, Datum.length_children_outline]
  by_cases inside : i < a.children.length
  · exact Or.inr ⟨_, _, List.getElem?_eq_getElem inside, List.getElem?_eq_getElem (count ▸ inside)⟩
  · exact Or.inl ⟨List.getElem?_eq_none (by omega), List.getElem?_eq_none (by omega)⟩

theorem alike_of_children (here : Agree (some a) (some b))
    (inner : ∀ i c d, hides a i = false → a.children[i]? = some c → b.children[i]? = some d →
      Alike c d) : Alike a b := by
  intro path free
  cases path with
  | nil => exact here
  | cons i path =>
    rw [Datum.at?, Datum.at?]
    rcases child_cases (Option.some_inj.mp here.1) i with ⟨first, second⟩ | ⟨c, d, first, second⟩
    · rw [first, second]
      exact agree_refl none
    · rw [first, second]
      exact inner i c d (not_hides free) first second path (not_isGuarded_child free first)

/-- Redaction does not tell values apart that differ in secrets only. -/
theorem Alike.value_eq (alike : Alike a b) : value a = value b := by
  induction a using Datum.inward generalizing b with
  | step a ih =>
  have shape := alike.outline_eq
  refine Datum.ext_children ?_ ?_ fun s t => alike.text_eq
  · rw [outline_value, outline_value, shape]
  · apply List.ext_getElem?
    intro i
    have hidden : hides a i = hides b i := by rw [← hides_outline a, shape, hides_outline]
    rw [children_value, children_value, ← hidden]
    cases free : hides a i with
    | true => rfl
    | false =>
      -- Only here the sides differ, and these values are alike again.
      rcases child_cases shape i with ⟨first, second⟩ | ⟨c, d, first, second⟩
      · rw [first, second]
      · have same := ih c (List.mem_of_getElem? first) (alike.child free first second)
        rw [first, second, Option.map_some, Option.map_some, same]

/-! ### Parameters -/

/-- Whether a value has the shape of another: the same containers with the same keys, and the mask
under every sensitive key. -/
structure Resembles (r d : Datum) : Prop where
  outside : ∀ path, isGuarded d path = false →
    (r.at? path).map outline = (d.at? path).map outline
  under : ∀ path i c, isGuarded d path = false → d.at? path = some c → hides c i = true →
    r.at? (path ++ [i]) = some (.text mask)

theorem resembles_value (d : Datum) : Resembles (value d) d where
  outside := by
    intro path free
    rw [at?_value free, Option.map_map]
    exact Option.map_congr fun c _ => outline_value c
  under := fun _ _ _ => at?_value_hidden

theorem parameters?_list (items : List Datum) :
    parameters? (.list items) = some (value (.list items)) := by
  rw [value]
  rfl

/-- Redacted parameters have the shape of the parameters.  They hold no sensitive text, but all
other texts and numbers outside of sensitive keys, redacting them again changes nothing, and they
say nothing of the secrets. -/
theorem parameters?_masks (items : List Datum) : ∃ masked,
    parameters? (.list items) = some (.list masked) ∧
    Resembles (.list masked) (.list items) ∧
    (∀ path s, (Datum.list masked).at? path = some (.text s) → isSensitive s = false) ∧
    (∀ path leaf, isGuarded (.list items) path = false →
      (Datum.list items).at? path = some leaf → leaf.isLeaf = true →
      (∀ s, leaf = .text s → isSensitive s = false) →
      (Datum.list masked).at? path = some leaf) ∧
    parameters? (.list masked) = some (.list masked) ∧
    ∀ others, Alike (.list items) (.list others) →
      parameters? (.list others) = some (.list masked) := by
  have whole := value_list items
  refine ⟨items.map value, ?_, ?_, ?_, ?_, ?_, ?_⟩
  · rw [parameters?_list, whole]
  · rw [← whole]
    exact resembles_value _
  · rw [← whole]
    exact fun path s => isSensitive_of_at?_value
  · intro path leaf free inner kind plain
    rw [← whole, at?_value free, inner, Option.map_some, value_of_isLeaf kind plain]
  · rw [parameters?_list, ← whole, value_value]
  · intro others alike
    rw [parameters?_list, ← alike.value_eq, whole]

/-- A sensitive text, a list under a sensitive key and a tuple under a plain one. -/
def nestedItems : List Datum :=
  [.text "my secret", .dict [(.text "Password", .list [.text "x"]),
    (.text "note", .tuple [.text "Bearer y", .text "doc"])]]

def nestedOthers : List Datum :=
  [.text "TOKEN", .dict [(.text "Password", .null),
    (.text "note", .tuple [.text "Bearer y", .text "doc"])]]

theorem alike_nested : Alike (.list nestedItems) (.list nestedOthers) := by
  refine alike_of_children ⟨rfl, by rintro s t ⟨⟩⟩ ?_
  rintro (_ | _ | i) c d - first second
  · cases first
    cases second
    refine alike_of_children ⟨rfl, ?_⟩ fun i c d _ none => by cases none
    rintro s t ⟨⟩ ⟨⟩
    exact Or.inr ⟨by decide, by decide⟩
  · cases first
    cases second
    refine alike_of_children ⟨rfl, by rintro s t ⟨⟩⟩ ?_
    rintro (_ | _ | i) c d free first second
    · exact absurd free (by decide)
    · cases first
      cases second
      exact fun path _ => agree_refl _
    · cases first
  · cases first

theorem parameters?_masks_nested : ∃ masked,
    parameters? (.list nestedItems) = some (.list masked) ∧
    (Datum.list masked).at? [1, 1, 1] = some (.text "doc") ∧
    (Datum.list masked).at? [1, 0] = some (.text mask) ∧
    parameters? (.list nestedOthers) = some (.list masked) := by
  obtain ⟨masked, given, shape, -, kept, -, secret⟩ := parameters?_masks nestedItems
  refine ⟨masked, given, ?_, ?_, secret _ alike_nested⟩
  · exact kept [1, 1, 1] (.text "doc") (by decide) (by rfl) rfl (by rintro s ⟨⟩; decide)
  · exact shape.under [1] 0 _ (by decide) (by rfl) (by decide)

end Redaction

end SystemCatalog
