import SystemCatalog.Text.Blank
import SystemCatalog.Text.Digit

/-!
# Reading decimal digits

A natural number is read back from its decimal digits: `natOfDigits_toDigits`.
-/

namespace SystemCatalog.Text

theorem isDigit_iff {c : Char} : c.isDigit = true ↔ 0x30 ≤ c.toNat ∧ c.toNat ≤ 0x39 :=
  (Bool.and_eq_true_iff).trans (and_congr decide_eq_true_iff decide_eq_true_iff)

theorem toNat_of_isDigit {c : Char} (digit : c.isDigit = true) : c.toNat < 0x80 := by
  have bounds := isDigit_iff.mp digit
  omega

theorem digitValue?_of_isDigit {c : Char} (digit : c.isDigit = true) :
    digitValue? c = some (c.toNat - '0'.toNat) := by
  obtain ⟨low, high⟩ := isDigit_iff.mp digit
  have first : (decide (0x30 ≤ c.toNat) && decide (c.toNat ≤ 0x30 + 9)) = true := by
    simp [low, high]
  rw [digitValue?, zeros, List.find?_cons, first]
  rfl

theorem not_isBlank_of_isDigit {c : Char} (digit : isDigit c) : ¬isBlank c := by
  have apart : ∀ z ∈ zeros, ∀ range ∈ blanks, z + 9 < range.1 ∨ range.2 < z := by decide
  obtain ⟨n, value⟩ := Option.isSome_iff_exists.mp digit
  obtain ⟨z, found, -⟩ := Option.map_eq_some_iff.mp value
  have inside := List.find?_some found
  simp only [Bool.and_eq_true, decide_eq_true_eq] at inside
  simp only [isBlank, covers, List.any_eq_true, not_exists, not_and]
  intro range mem
  have := apart z (List.mem_of_find?_eq_some found) range mem
  simp only [Bool.and_eq_true, decide_eq_true_eq, not_and]
  omega

theorem foldl_digitValue? {digits : List Char} (all : ∀ c ∈ digits, c.isDigit = true) (n : Nat) :
    digits.foldl (fun n c => 10 * n + (digitValue? c).getD 0) n = Nat.ofDigitChars 10 digits n := by
  induction digits generalizing n with
  | nil => rfl
  | cons c digits ih =>
    rw [List.foldl_cons, digitValue?_of_isDigit (all c List.mem_cons_self),
      ih fun d mem => all d (List.mem_cons_of_mem _ mem)]
    rfl

theorem natOfDigits_toDigits (n : Nat) : natOfDigits (Nat.toDigits 10 n) = n := by
  have digits : ∀ c ∈ Nat.toDigits 10 n, c.isDigit = true := fun c mem =>
    Nat.isDigit_of_mem_toDigits (by decide) (by decide) mem
  rw [natOfDigits, foldl_digitValue? digits, Nat.ofDigitChars_ten_toDigits]

end SystemCatalog.Text
