import SystemCatalog.Proofs.Text.Digit
import SystemCatalog.Text.LetterCase

/-!
# Letters of ASCII

Which characters are letters of ASCII, and what ASCII texts are in small letters: `lower_ascii`,
`lower_of_small`.  The case of the ASCII letters in a text does not matter to its small letters:
`lower_map_toLower`.
-/

namespace SystemCatalog.Text

variable {c : Char}

theorem isUpper_iff : c.isUpper = true ↔ 0x41 ≤ c.toNat ∧ c.toNat ≤ 0x5a := decide_eq_true_iff

theorem isLower_iff : c.isLower = true ↔ 0x61 ≤ c.toNat ∧ c.toNat ≤ 0x7a :=
  (Bool.and_eq_true_iff).trans (and_congr decide_eq_true_iff decide_eq_true_iff)

theorem toNat_of_isAlphanum (sign : c.isAlphanum = true) : c.toNat < 0x80 := by
  rcases Bool.or_eq_true_iff.mp sign with letter | digit
  · rcases Bool.or_eq_true_iff.mp letter with upper | lower
    · have bounds := isUpper_iff.mp upper
      omega
    · have bounds := isLower_iff.mp lower
      omega
  · have bounds := isDigit_iff.mp digit
    omega

theorem exists_ofNat_of_ascii (ascii : c.toNat < 0x80) : ∃ n < 0x80, c = Char.ofNat n :=
  ⟨c.toNat, ascii, (Char.ofNat_toNat c).symm⟩

/-- Whether the character is one of ASCII and no capital letter. -/
def isSmall (c : Char) : Bool := c.toNat < 0x41 || (0x5b ≤ c.toNat && c.toNat < 0x80)

theorem not_covers_small (small : isSmall c = true) {run : CaseRun} (mem : run ∈ lowerRuns) :
    run.covers c.toNat = false := by
  have bounds : (lowerRuns.all fun run =>
      0x80 ≤ run.first || (0x41 ≤ run.first && run.last ≤ 0x5a)) = true := by decide
  have bound := List.all_eq_true.mp bounds run mem
  simp only [isSmall, Bool.or_eq_true, Bool.and_eq_true, decide_eq_true_eq] at small bound
  by_cases first : run.first ≤ c.toNat
  · have last : ¬ c.toNat ≤ run.last := by omega
    simp [CaseRun.covers, last]
  · simp [CaseRun.covers, first]

theorem mapCase_small (small : isSmall c = true) : mapCase lowerRuns lowerExpansions c = [c] := by
  have run : lowerRuns.find? (·.covers c.toNat) = none := by
    rw [List.find?_eq_none]
    intro run mem
    simp [not_covers_small small mem]
  have image : lowerExpansions.find? (·.1 == c.toNat) = none := by
    have bounds : (lowerExpansions.all fun image => 0x80 ≤ image.1) = true := by decide
    rw [List.find?_eq_none]
    intro image mem
    have bound := List.all_eq_true.mp bounds image mem
    simp only [isSmall, Bool.or_eq_true, Bool.and_eq_true, decide_eq_true_eq] at small bound
    simp only [beq_iff_eq]
    omega
  rw [mapCase, run, image]

theorem exists_ofNat_of_isUpper (upper : c.isUpper = true) :
    ∃ n < 26, c = Char.ofNat (0x41 + n) := by
  have bounds := isUpper_iff.mp upper
  have number : 0x41 + (c.toNat - 0x41) = c.toNat := by omega
  exact ⟨c.toNat - 0x41, by omega, by rw [number, Char.ofNat_toNat]⟩

theorem mapCase_upper (upper : c.isUpper = true) :
    mapCase lowerRuns lowerExpansions c = [c.toLower] := by
  have letters : ∀ n < 26, mapCase lowerRuns lowerExpansions (Char.ofNat (0x41 + n)) =
      [(Char.ofNat (0x41 + n)).toLower] := by decide
  obtain ⟨n, small, rfl⟩ := exists_ofNat_of_isUpper upper
  exact letters n small

theorem toLower_of_not_upper (small : c.isUpper = false) : c.toLower = c :=
  dif_neg (of_decide_eq_false small)

theorem mapCase_ascii (ascii : c.toNat < 0x80) :
    mapCase lowerRuns lowerExpansions c = [c.toLower] := by
  cases upper : c.isUpper with
  | true => exact mapCase_upper upper
  | false =>
    rw [toLower_of_not_upper upper, mapCase_small]
    rw [Bool.eq_false_iff, Ne, isUpper_iff] at upper
    simp only [isSmall, Bool.or_eq_true, Bool.and_eq_true, decide_eq_true_eq]
    omega

theorem lowerAfter_ascii {s : List Char} (ascii : ∀ c ∈ s, c.toNat < 0x80) (cased : Bool) :
    lowerAfter cased s = s.map Char.toLower := by
  induction s generalizing cased with
  | nil => rfl
  | cons c s ih =>
    have letter : c ≠ 'Σ' := by
      rintro rfl
      exact absurd (ascii _ List.mem_cons_self) (by decide)
    rw [lowerAfter, if_neg letter, mapCase_ascii (ascii c List.mem_cons_self),
      ih fun d mem => ascii d (List.mem_cons_of_mem _ mem)]
    rfl

theorem lower_ascii {s : List Char} (ascii : ∀ c ∈ s, c.toNat < 0x80) :
    lower s = s.map Char.toLower :=
  lowerAfter_ascii ascii false

theorem lower_of_small {s : List Char} (small : s.all isSmall = true) : lower s = s := by
  have each : ∀ c ∈ s, c.toNat < 0x80 ∧ c.toLower = c := by
    intro c mem
    have bounds := List.all_eq_true.mp small c mem
    simp only [isSmall, Bool.or_eq_true, Bool.and_eq_true, decide_eq_true_eq] at bounds
    refine ⟨by omega, toLower_of_not_upper ?_⟩
    rw [Bool.eq_false_iff, Ne, isUpper_iff]
    omega
  rw [lower_ascii fun c mem => (each c mem).1, List.map_congr_left fun c mem => (each c mem).2,
    List.map_id']

/-! ### The case of ASCII letters -/

theorem apply_toLower {α : Type} {f : Char → α}
    (letters : ∀ n < 26, f (Char.ofNat (0x41 + n)).toLower = f (Char.ofNat (0x41 + n)))
    (c : Char) : f c.toLower = f c := by
  cases upper : c.isUpper with
  | false => rw [toLower_of_not_upper upper]
  | true =>
    obtain ⟨n, small, rfl⟩ := exists_ofNat_of_isUpper upper
    exact letters n small

set_option maxRecDepth 1500 in
theorem not_isCaseIgnorable_of_isAlpha (letter : c.isAlpha = true) : isCaseIgnorable c = false := by
  have bounds : (caseIgnorableIntervals.all fun range =>
      range.2 < 0x41 || (0x5b ≤ range.1 && range.2 < 0x61) || 0x7b ≤ range.1) = true := by decide
  rw [Bool.eq_false_iff, Ne, isCaseIgnorable, covers_eq_true_iff]
  rintro ⟨range, mem, low, high⟩
  have bound := List.all_eq_true.mp bounds range mem
  simp only [Bool.or_eq_true, Bool.and_eq_true, decide_eq_true_eq] at bound
  rcases Bool.or_eq_true_iff.mp letter with upper | lower
  · have place := isUpper_iff.mp upper
    omega
  · have place := isLower_iff.mp lower
    omega

theorem isCaseIgnorable_toLower (c : Char) : isCaseIgnorable c.toLower = isCaseIgnorable c := by
  have letters : ∀ n < 26, (Char.ofNat (0x41 + n)).isAlpha = true ∧
      (Char.ofNat (0x41 + n)).toLower.isAlpha = true := by decide
  apply apply_toLower
  intro n small
  rw [not_isCaseIgnorable_of_isAlpha (letters n small).1,
    not_isCaseIgnorable_of_isAlpha (letters n small).2]

theorem isCased_toLower (c : Char) : isCased c.toLower = isCased c := apply_toLower (by decide) c

theorem mapCase_toLower (c : Char) :
    mapCase lowerRuns lowerExpansions c.toLower = mapCase lowerRuns lowerExpansions c :=
  apply_toLower (by decide) c

theorem toLower_eq_sigma_iff (c : Char) : c.toLower = 'Σ' ↔ c = 'Σ' := by
  have letters : ∀ n < 26, decide ((Char.ofNat (0x41 + n)).toLower = 'Σ') =
      decide (Char.ofNat (0x41 + n) = 'Σ') := by decide
  exact decide_eq_decide.mp (@apply_toLower Bool (fun c => decide (c = 'Σ')) letters c)

theorem startsCased_map_toLower (s : List Char) :
    startsCased (s.map Char.toLower) = startsCased s := by
  unfold startsCased
  rw [List.dropWhile_map]
  have same : isCaseIgnorable ∘ Char.toLower = isCaseIgnorable := funext isCaseIgnorable_toLower
  rw [same]
  cases s.dropWhile isCaseIgnorable with
  | nil => rfl
  | cons c rest => exact isCased_toLower c

theorem lowerAfter_map_toLower (cased : Bool) (s : List Char) :
    lowerAfter cased (s.map Char.toLower) = lowerAfter cased s := by
  induction s generalizing cased with
  | nil => rfl
  | cons c s ih =>
    rw [List.map_cons, lowerAfter, lowerAfter]
    simp only [isCaseIgnorable_toLower, isCased_toLower, toLower_eq_sigma_iff, mapCase_toLower,
      startsCased_map_toLower, ih]

theorem lower_map_toLower (s : List Char) : lower (s.map Char.toLower) = lower s :=
  lowerAfter_map_toLower false s

/-! ### ASCII text behind any other -/

theorem mapCase_ne_nil (c : Char) : mapCase lowerRuns lowerExpansions c ≠ [] := by
  unfold mapCase
  split
  · exact List.cons_ne_nil _ _
  · split
    · next image found =>
      have images : (lowerExpansions.all fun image => !image.2.isEmpty) = true := by decide
      have some := List.all_eq_true.mp images _ (List.mem_of_find?_eq_some found)
      simpa using some
    · exact List.cons_ne_nil _ _

/-- ASCII text has its own small letters behind any other text, which does not lose all of its
characters. -/
theorem lowerAfter_append_ascii (cased : Bool) (s : List Char) {t : List Char}
    (ascii : ∀ c ∈ t, c.toNat < 0x80) :
    ∃ front, lowerAfter cased (s ++ t) = front ++ t.map Char.toLower ∧ (front = [] → s = []) := by
  induction s generalizing cased with
  | nil => exact ⟨[], lowerAfter_ascii ascii cased, fun _ => rfl⟩
  | cons c s ih =>
    obtain ⟨front, eq, -⟩ := ih (if isCaseIgnorable c then cased else isCased c)
    rw [List.cons_append, lowerAfter, eq]
    split
    · exact ⟨_ :: front, rfl, fun none => absurd none (List.cons_ne_nil _ _)⟩
    · refine ⟨_ ++ front, (List.append_assoc _ _ _).symm, fun none => ?_⟩
      exact absurd (List.append_eq_nil_iff.mp none).1 (mapCase_ne_nil c)

end SystemCatalog.Text
