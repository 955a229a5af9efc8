import SystemCatalog.Address.Written
import SystemCatalog.Proofs.Text.Percent

/-!
# Reading queries

Of the options in a query that have a value, the first one of each name counts: `lookup_ofChars`.
Options with different names that are written in a query are read back, but for those without a
value: `ofChars_spell`.
-/

namespace SystemCatalog.Address.Query

open Text

/-- The options in a query that have a value, in their order. -/
def items (s : List Char) : List (String × String) := (splitOn '&' s).filterMap item?

variable {seen added options : List (String × String)} {option : String × String}

/-! ### The first option of each name -/

theorem lookup_addFirst (seen : List (String × String)) (option : String × String) (name : String) :
    (addFirst seen option).lookup name = (seen ++ [option]).lookup name := by
  unfold addFirst
  split
  · next known =>
    obtain ⟨found, mem, same⟩ := List.any_eq_true.mp known
    rw [List.lookup_append]
    cases value : seen.lookup name with
    | some _ => rfl
    | none =>
      have absent : (name != found.1) = true := List.lookup_eq_none_iff.mp value found mem
      have other : (name == option.1) = false := by
        rw [← eq_of_beq same]
        simpa using absent
      rw [List.lookup_cons, other]
      rfl
  · rfl

theorem lookup_foldl_addFirst (added seen : List (String × String)) (name : String) :
    (added.foldl addFirst seen).lookup name = (seen ++ added).lookup name := by
  induction added generalizing seen with
  | nil => rw [List.foldl_nil, List.append_nil]
  | cons option added ih =>
    rw [List.foldl_cons, ih, List.append_cons, List.lookup_append, lookup_addFirst,
      ← List.lookup_append]

theorem addFirst_of_new (new : option.1 ∉ seen.map (·.1)) :
    addFirst seen option = seen ++ [option] := by
  have unknown : ¬ (seen.any fun o => o.1 == option.1) = true := by
    intro known
    obtain ⟨found, mem, same⟩ := List.any_eq_true.mp known
    exact new (eq_of_beq same ▸ List.mem_map_of_mem mem)
  rw [addFirst, if_neg unknown]

theorem addFirst_of_known (known : option.1 ∈ seen.map (·.1)) : addFirst seen option = seen := by
  obtain ⟨found, mem, same⟩ := List.mem_map.mp known
  have any : (seen.any fun o => o.1 == option.1) = true :=
    List.any_eq_true.mpr ⟨found, mem, beq_iff_eq.mpr same⟩
  rw [addFirst, if_pos any]

theorem nodup_addFirst (distinct : (seen.map (·.1)).Nodup) :
    ((addFirst seen option).map (·.1)).Nodup := by
  by_cases known : option.1 ∈ seen.map (·.1)
  · rwa [addFirst_of_known known]
  · rw [addFirst_of_new known, List.map_append, List.nodup_append]
    refine ⟨distinct, by simp, ?_⟩
    rintro name mem _ last rfl
    rw [List.map_singleton, List.mem_singleton] at last
    exact known (last ▸ mem)

theorem nodup_foldl_addFirst (added : List (String × String)) (distinct : (seen.map (·.1)).Nodup) :
    ((added.foldl addFirst seen).map (·.1)).Nodup := by
  induction added generalizing seen with
  | nil => exact distinct
  | cons option added ih => exact ih (nodup_addFirst distinct)

theorem foldl_addFirst_of_nodup (distinct : ((seen ++ added).map (·.1)).Nodup) :
    added.foldl addFirst seen = seen ++ added := by
  induction added generalizing seen with
  | nil => rw [List.foldl_nil, List.append_nil]
  | cons option added ih =>
    have new : option.1 ∉ seen.map (·.1) := by
      intro known
      rw [List.map_append, List.nodup_append] at distinct
      exact distinct.2.2 _ known _ (by simp) rfl
    rw [List.append_cons] at distinct ⊢
    rw [List.foldl_cons, addFirst_of_new new, ih distinct]

theorem lookup_ofChars (s : List Char) (name : String) :
    (ofChars s).lookup name = (items s).lookup name :=
  lookup_foldl_addFirst (items s) [] name

theorem nodup_ofChars (s : List Char) : ((ofChars s).map (·.1)).Nodup :=
  nodup_foldl_addFirst (items s) List.nodup_nil

theorem ofChars_of_nodup {s : List Char} (distinct : ((items s).map (·.1)).Nodup) :
    ofChars s = items s :=
  foldl_addFirst_of_nodup distinct

/-! ### Written options -/

/-- Whether the character is one that written options consist of; it neither separates options nor
ends a query. -/
def isSafe (c : Char) : Bool := Percent.isUnreserved c || c == '%' || c == '+' || c == '*'

theorem ne_of_isSafe {c d : Char} (safe : isSafe c = true) (other : isSafe d = false) : c ≠ d := by
  rintro rfl
  rw [safe] at other
  cases other

/-- A way to write texts so that they are read back from a query. -/
structure Coding where
  write : String → List Char
  safe : ∀ s, ∀ c ∈ write s, isSafe c = true
  reads : ∀ s, decodeItem (write s) = s.toList
  empty : write "" = []

theorem replace_of_not_mem {old new : Char} {s : List Char} (absent : old ∉ s) :
    replace old new s = s := by
  have same : ∀ c ∈ s, (if c = old then new else c) = c := by
    intro c mem
    exact if_neg fun eq => absent (by rwa [← eq])
  rw [replace, List.map_congr_left same, List.map_id']

theorem replace_replace {old new : Char} {s : List Char} (absent : new ∉ s) :
    replace new old (replace old new s) = s := by
  have same : ∀ c ∈ s, ((fun c => if c = new then old else c) ∘
      fun c => if c = old then new else c) c = c := by
    intro c mem
    have other : c ≠ new := fun eq => absent (by rwa [← eq])
    by_cases h : c = old
    · simp [h]
    · simp [h, other]
  rw [replace, replace, List.map_map, List.map_congr_left same, List.map_id']

namespace Coding

theorem plus_not_mem {keep : Char → Bool} (unkept : keep '+' = false) (s : List Char) :
    '+' ∉ Percent.encode keep s := by
  intro mem
  rcases Percent.mem_encode mem with kept | free | sign
  · rw [unkept] at kept
    cases kept
  · exact absurd free (by decide)
  · exact absurd sign (by decide)

def percent : Coding where
  write := quote
  safe := by
    intro s c mem
    rcases Percent.mem_encode mem with kept | free | rfl
    · cases kept
    · simp [isSafe, free]
    · rfl
  reads := by
    intro s
    rw [decodeItem, quote, replace_of_not_mem (plus_not_mem rfl _), Percent.decode_encode rfl]
  empty := rfl

def keptInForms (asterisk : Bool) (c : Char) : Bool := asterisk && c == '*' || c == ' '

/-- Texts as in forms, with a plus sign for a space; asterisks may stand for themselves. -/
def form (asterisk : Bool) : Coding where
  write s := replace ' ' '+' (Percent.encode (keptInForms asterisk) s.toList)
  safe := by
    intro s c mem
    obtain ⟨d, inside, rfl⟩ := List.mem_map.mp mem
    by_cases space : d = ' '
    · simp [space, isSafe]
    rw [if_neg space]
    rcases Percent.mem_encode inside with kept | free | rfl
    · simp only [keptInForms, Bool.or_eq_true, Bool.and_eq_true, beq_iff_eq, space,
        or_false] at kept
      simp [isSafe, kept.2]
    · simp [isSafe, free]
    · rfl
  reads := by
    intro s
    rw [decodeItem, replace_replace (plus_not_mem (by simp [keptInForms]) _),
      Percent.decode_encode (by simp [keptInForms])]
  empty := rfl

variable (coding : Coding)

def spellOption (option : String × String) : List Char :=
  coding.write option.1 ++ '=' :: coding.write option.2

def spell (options : List (String × String)) : List Char :=
  List.intercalate ['&'] (options.map coding.spellOption)

theorem spell_form (options : List (String × String)) :
    (form true).spell options = encode options := rfl

theorem mem_spellOption {c : Char} (mem : c ∈ coding.spellOption option) :
    isSafe c = true ∨ c = '=' := by
  rcases List.mem_append.mp mem with name | rest
  · exact Or.inl (coding.safe _ c name)
  · rcases List.mem_cons.mp rest with sign | value
    · exact Or.inr sign
    · exact Or.inl (coding.safe _ c value)

theorem mem_spell {c : Char} (mem : c ∈ coding.spell options) :
    isSafe c = true ∨ c = '=' ∨ c = '&' := by
  induction options with
  | nil => cases mem
  | cons option more ih =>
    cases more with
    | nil =>
      rw [spell, List.map_singleton, List.intercalate_singleton] at mem
      exact (coding.mem_spellOption mem).imp_right Or.inl
    | cons next more =>
      rw [spell, List.map_cons, List.map_cons, List.intercalate_cons_cons, List.mem_append,
        List.mem_append, ← List.map_cons] at mem
      rcases mem with (first | sign) | later
      · exact (coding.mem_spellOption first).imp_right Or.inl
      · exact Or.inr (Or.inr (List.mem_singleton.mp sign))
      · exact ih later

theorem item?_spellOption (option : String × String) :
    item? (coding.spellOption option) = if option.2 = "" then none else some option := by
  have absent : '=' ∉ coding.write option.1 := by
    intro mem
    exact absurd (coding.safe _ _ mem) (by decide)
  rw [item?, spellOption, splitFirst?_append absent]
  dsimp only
  by_cases blank : option.2 = ""
  · rw [blank, coding.empty]
    rfl
  · have value : coding.write option.2 ≠ [] := by
      intro nothing
      have read := coding.reads option.2
      rw [nothing] at read
      exact blank (String.toList_eq_nil_iff.mp read.symm)
    rw [if_neg blank, if_neg (by simpa using value), coding.reads, coding.reads,
      String.ofList_toList, String.ofList_toList]

theorem filterMap_item? (options : List (String × String)) :
    (options.map coding.spellOption).filterMap item? = options.filter fun o => o.2 != "" := by
  induction options with
  | nil => rfl
  | cons option more ih =>
    rw [List.map_cons, List.filterMap_cons, ih, item?_spellOption, List.filter_cons]
    by_cases blank : option.2 = ""
    · simp [blank]
    · simp [blank]

theorem items_spell (options : List (String × String)) :
    items (coding.spell options) = options.filter fun o => o.2 != "" := by
  by_cases none : options = []
  · rw [none]
    rfl
  have absent : ∀ piece ∈ options.map coding.spellOption, '&' ∉ piece := by
    intro piece mem inside
    obtain ⟨option, -, rfl⟩ := List.mem_map.mp mem
    rcases coding.mem_spellOption inside with safe | sign
    · exact absurd safe (by decide)
    · exact absurd sign (by decide)
  rw [items, spell, splitOn_intercalate (by simpa using none) absent, filterMap_item?]

end Coding

theorem ofChars_spell (coding : Coding) (distinct : (options.map (·.1)).Nodup) :
    ofChars (coding.spell options) = options.filter fun o => o.2 != "" := by
  rw [ofChars_of_nodup, coding.items_spell]
  rw [coding.items_spell]
  exact distinct.sublist (List.filter_sublist.map _)

end SystemCatalog.Address.Query
