import SystemCatalog.Catalog.NativeType
import SystemCatalog.Proofs.Text.Cut
import SystemCatalog.Proofs.Text.LetterCase

/-!
# Names of column types

The standard type of a name depends on neither the blanks around it nor the case of its ASCII
letters, the name of an array is one whatever it is an array of, and nothing else is:
`mapNativeType_names`.
-/

namespace SystemCatalog.Catalog

variable {name front s t : List Char}

/-! ### Standard types -/

theorem isArrayName_iff :
    isArrayName name = true ↔ ∃ front, front ≠ [] ∧ name = front ++ arraySuffix := by
  rw [isArrayName, Bool.and_eq_true, List.isSuffixOf_iff_suffix, decide_eq_true_eq]
  constructor
  · rintro ⟨⟨front, rfl⟩, longer⟩
    refine ⟨front, ?_, rfl⟩
    rintro rfl
    exact Nat.lt_irrefl _ longer
  · rintro ⟨front, some, rfl⟩
    have positive := List.length_pos_iff.mpr some
    refine ⟨List.suffix_append _ _, ?_⟩
    rw [List.length_append]
    omega

/-- The table decides first, but it has no arrays, neither as names nor as types. -/
theorem standardType_eq_array_iff : standardType name = .array ↔ isArrayName name = true := by
  have table : (nativeTypes.all fun entry =>
      !isArrayName entry.1.toList && entry.2 != .array) = true := by decide
  unfold standardType
  split
  · next known type found =>
    have entry := List.all_eq_true.mp table _ (List.mem_of_find?_eq_some found)
    simp only [Bool.and_eq_true, Bool.not_eq_true', bne_iff_ne, ne_eq] at entry
    have same : known.toList = name := by simpa using List.find?_some found
    rw [← same, entry.1]
    exact iff_of_false entry.2 Bool.false_ne_true
  · split
    · next array => exact iff_of_true rfl array
    · next other => exact iff_of_false (by decide) other

/-! ### Names in their usual form -/

theorem normalizeType_congr
    (alike : (Text.trim s).map Char.toLower = (Text.trim t).map Char.toLower) :
    normalizeType s = normalizeType t := by
  rw [normalizeType, normalizeType, ← Text.lower_map_toLower, alike, Text.lower_map_toLower]

theorem isBlank_toLower (c : Char) : Text.isBlank c.toLower = Text.isBlank c :=
  Text.apply_toLower (by decide) c

theorem ascii_of_toLower {c : Char} (ascii : c.toLower.toNat < 0x80) : c.toNat < 0x80 := by
  cases upper : c.isUpper with
  | true =>
    have bounds := Text.isUpper_iff.mp upper
    omega
  | false => rwa [Text.toLower_of_not_upper upper] at ascii

theorem isArrayName_normalizeType {suffix : List Char} (some : ∃ c ∈ s, Text.isBlank c = false)
    (small : suffix.map Char.toLower = arraySuffix) :
    isArrayName (normalizeType (s ++ suffix)) = true := by
  have inside : ∀ c ∈ suffix, c.toLower ∈ arraySuffix := fun c mem =>
    small ▸ List.mem_map_of_mem mem
  have letters : (arraySuffix.all fun c => c.toNat < 0x80 && !Text.isBlank c) = true := by decide
  have each : ∀ c ∈ suffix, c.toLower.toNat < 0x80 ∧ Text.isBlank c = false := by
    intro c mem
    have letter := List.all_eq_true.mp letters _ (inside c mem)
    rwa [Bool.and_eq_true, decide_eq_true_eq, Bool.not_eq_true', isBlank_toLower] at letter
  have ascii : ∀ c ∈ suffix, c.toNat < 0x80 := fun c mem => ascii_of_toLower (each c mem).1
  have back : ∀ c ∈ suffix.getLast?, Text.isBlank c = false := fun c last =>
    (each c (List.mem_of_getLast? last)).2
  have inhabited : suffix ≠ [] := by
    rintro rfl
    cases small
  obtain ⟨base, trimmed, kept⟩ := Text.trim_append some back inhabited
  obtain ⟨front, lowered, dropped⟩ := Text.lowerAfter_append_ascii false base ascii
  rw [isArrayName_iff, normalizeType, trimmed, Text.lower, lowered, small]
  exact ⟨front, fun none => kept (dropped none), rfl⟩

/-- Names that are the same but for blanks around them and the case of ASCII letters have the same
type.  A name that is not blank with the suffix of arrays behind it, in letters of either case, is
an array, and what is an array ends with the suffix, in small letters and without the blanks around
it, and has more than the suffix. -/
theorem mapNativeType_names :
    (∀ s t : String,
      (Text.trim s.toList).map Char.toLower = (Text.trim t.toList).map Char.toLower →
      mapNativeType (.text s) = mapNativeType (.text t)) ∧
    (∀ base suffix : String, (∃ c ∈ base.toList, Text.isBlank c = false) →
      suffix.toList.map Char.toLower = "_array".toList →
      mapNativeType (.text (base ++ suffix)) = .array) ∧
    ∀ s : String, mapNativeType (.text s) = .array ↔
      ∃ front, front ≠ [] ∧ Text.lower (Text.trim s.toList) = front ++ "_array".toList := by
  refine ⟨?_, ?_, ?_⟩
  · intro s t alike
    rw [mapNativeType, mapNativeType, normalizeType_congr alike]
  · intro base suffix some small
    rw [mapNativeType, standardType_eq_array_iff, String.toList_append]
    exact isArrayName_normalizeType some small
  · intro s
    rw [mapNativeType, standardType_eq_array_iff, isArrayName_iff]
    rfl

/-- A name of blanks and capital letters, an array of arrays whose name ends with a capital sigma,
and the suffix alone. -/
theorem mapNativeType_names_padded :
    mapNativeType (.text " Double PRECISION\t") = .double ∧
    mapNativeType (.text (" TEXT_Array_Σ" ++ "_ARRAY")) = .array ∧
    mapNativeType (.text "_array ") ≠ .array := by
  obtain ⟨alike, arrays, only⟩ := mapNativeType_names
  have double : mapNativeType (.text "double precision") = .double := by decide
  refine ⟨?_, ?_, ?_⟩
  · rw [alike " Double PRECISION\t" "double precision" (by decide), double]
  · exact arrays " TEXT_Array_Σ" "_ARRAY" ⟨'T', by decide, by decide⟩ (by decide)
  · rw [Ne, only]
    rintro ⟨front, some, eq⟩
    have lengths := congrArg List.length eq
    rw [List.length_append] at lengths
    have empty : front.length = 0 := by
      have whole : (Text.lower (Text.trim "_array ".toList)).length = 6 := by decide
      have suffix : "_array".toList.length = 6 := by decide
      omega
    exact some (List.length_eq_zero_iff.mp empty)

end SystemCatalog.Catalog
