import SystemCatalog.Proofs.Text.LetterCase
import SystemCatalog.Text.Percent

/-!
# Reading what was percent coded

A text that is written in octets, or in percent form, is read back as it was: `decode_encode`.
-/

namespace SystemCatalog.Text

namespace Utf8

theorem decodeFrom_cons (u : Option Unfinished) (b : Nat) (rest : List Nat) :
    decodeFrom u (b :: rest) = (step u b).1 ++ decodeFrom (step u b).2 rest := by
  cases u <;> rfl

theorem decodeFrom_lead {b : Nat} {u : Unfinished} (begins : lead b = ([], some u))
    (rest : List Nat) : decodeFrom none (b :: rest) = decodeFrom (some u) rest := by
  rw [decodeFrom_cons, step, begins]
  rfl

theorem decodeFrom_more {u : Unfinished} {b : Nat} (low : u.low ≤ b) (high : b ≤ u.high)
    (more : 1 < u.missing) (rest : List Nat) :
    decodeFrom (some u) (b :: rest) =
      decodeFrom (some { bits := u.bits * 64 + (b - 0x80), missing := u.missing - 1 }) rest := by
  rw [decodeFrom_cons, step, if_pos ⟨low, high⟩, if_neg (by omega)]
  rfl

theorem decodeFrom_last {u : Unfinished} {b : Nat} (low : u.low ≤ b) (high : b ≤ u.high)
    (last : u.missing ≤ 1) (rest : List Nat) :
    decodeFrom (some u) (b :: rest) =
      Char.ofNat (u.bits * 64 + (b - 0x80)) :: decodeFrom none rest := by
  rw [decodeFrom_cons, step, if_pos ⟨low, high⟩, if_pos last]
  rfl

theorem lead_of_two {b : Nat} (low : 0xc2 ≤ b) (high : b < 0xe0) :
    lead b = ([], some { bits := b - 0xc0, missing := 1 }) := by
  rw [lead, if_neg (by omega), if_neg (by omega), if_pos high]

theorem lead_of_three {b : Nat} (low : 0xe0 ≤ b) (high : b < 0xf0) :
    lead b = ([], some {
      bits := b - 0xe0
      missing := 2
      low := if b = 0xe0 then 0xa0 else 0x80
      high := if b = 0xed then 0x9f else 0xbf }) := by
  rw [lead, if_neg (by omega), if_neg (by omega), if_neg (by omega), if_pos high]

theorem lead_of_four {b : Nat} (low : 0xf0 ≤ b) (high : b < 0xf5) :
    lead b = ([], some {
      bits := b - 0xf0
      missing := 3
      low := if b = 0xf0 then 0x90 else 0x80
      high := if b = 0xf4 then 0x8f else 0xbf }) := by
  rw [lead, if_neg (by omega), if_neg (by omega), if_neg (by omega), if_neg (by omega),
    if_pos high]

/-! The octets of a character, by their number.  The bounds on the second octet leave out what has
a shorter form, surrogates, and what lies beyond the last character. -/

theorem decodeFrom_two {n : Nat} (low : 0x80 ≤ n) (high : n < 0x800) (rest : List Nat) :
    decodeFrom none ([0xc0 + n / 64, 0x80 + n % 64] ++ rest) =
      Char.ofNat n :: decodeFrom none rest := by
  simp only [List.cons_append, List.nil_append]
  rw [decodeFrom_lead (lead_of_two (by omega) (by omega)),
    decodeFrom_last (by dsimp only; omega) (by dsimp only; omega) (Nat.le_refl _)]
  have bits : (0xc0 + n / 64 - 0xc0) * 64 + (0x80 + n % 64 - 0x80) = n := by omega
  rw [bits]

theorem decodeFrom_three {n : Nat} (low : 0x800 ≤ n) (high : n < 0x10000)
    (valid : n < 0xd800 ∨ 0xdfff < n) (rest : List Nat) :
    decodeFrom none ([0xe0 + n / 4096, 0x80 + n / 64 % 64, 0x80 + n % 64] ++ rest) =
      Char.ofNat n :: decodeFrom none rest := by
  simp only [List.cons_append, List.nil_append]
  rw [decodeFrom_lead (lead_of_three (by omega) (by omega)),
    decodeFrom_more (by dsimp only; split <;> omega) (by dsimp only; split <;> omega)
      (by dsimp only; omega),
    decodeFrom_last (by dsimp only; omega) (by dsimp only; omega) (Nat.le_refl _)]
  have bits : ((0xe0 + n / 4096 - 0xe0) * 64 + (0x80 + n / 64 % 64 - 0x80)) * 64 +
      (0x80 + n % 64 - 0x80) = n := by omega
  rw [bits]

theorem decodeFrom_four {n : Nat} (low : 0x10000 ≤ n) (high : n < 0x110000) (rest : List Nat) :
    decodeFrom none ([0xf0 + n / 262144, 0x80 + n / 4096 % 64, 0x80 + n / 64 % 64,
      0x80 + n % 64] ++ rest) = Char.ofNat n :: decodeFrom none rest := by
  simp only [List.cons_append, List.nil_append]
  rw [decodeFrom_lead (lead_of_four (by omega) (by omega)),
    decodeFrom_more (by dsimp only; split <;> omega) (by dsimp only; split <;> omega)
      (by dsimp only; omega),
    decodeFrom_more (by dsimp only; omega) (by dsimp only; omega) (by dsimp only; omega),
    decodeFrom_last (by dsimp only; omega) (by dsimp only; omega) (Nat.le_refl _)]
  have bits : (((0xf0 + n / 262144 - 0xf0) * 64 + (0x80 + n / 4096 % 64 - 0x80)) * 64 +
      (0x80 + n / 64 % 64 - 0x80)) * 64 + (0x80 + n % 64 - 0x80) = n := by omega
  rw [bits]

theorem decodeFrom_octets (c : Char) (rest : List Nat) :
    decodeFrom none (octets c ++ rest) = c :: decodeFrom none rest := by
  have valid : c.toNat < 0xd800 ∨ 0xdfff < c.toNat ∧ c.toNat < 0x110000 := c.valid
  have back : Char.ofNat c.toNat = c := Char.ofNat_toNat c
  unfold octets
  generalize c.toNat = n at valid back
  dsimp only
  by_cases one : n < 0x80
  · rw [if_pos one, List.singleton_append, decodeFrom_cons, step, lead, if_pos one, back]
    rfl
  rw [if_neg one, ← back]
  by_cases two : n < 0x800
  · rw [if_pos two]
    exact decodeFrom_two (by omega) two rest
  rw [if_neg two]
  by_cases three : n < 0x10000
  · rw [if_pos three]
    exact decodeFrom_three (by omega) three (by omega) rest
  · rw [if_neg three]
    exact decodeFrom_four (by omega) (by omega) rest

theorem decode_encode (s : List Char) : decode (encode s) = s := by
  induction s with
  | nil => rfl
  | cons c s ih =>
    rw [encode, List.flatMap_cons, decode, decodeFrom_octets]
    exact congrArg (c :: ·) ih

theorem octets_lt {c : Char} {b : Nat} (mem : b ∈ octets c) : b < 256 := by
  have valid : c.toNat < 0xd800 ∨ 0xdfff < c.toNat ∧ c.toNat < 0x110000 := c.valid
  unfold octets at mem
  generalize c.toNat = n at valid mem
  dsimp only at mem
  split at mem
  · simp at mem
    omega
  split at mem
  · simp at mem
    omega
  split at mem
  · simp at mem
    omega
  · simp at mem
    omega

end Utf8

namespace Percent

theorem hexValue?_hexDigit {n : Nat} (small : n < 16) : hexValue? (hexDigit n) = some n := by
  have all : ∀ n < 16, hexValue? (hexDigit n) = some n := by decide
  exact all n small

theorem toNat_of_hexValue? {c : Char} (digit : (hexValue? c).isSome = true) : c.toNat < 0x80 := by
  have bounded : ∀ d : Char, d.toNat < 0x80 → c ≤ d → c.toNat < 0x80 := fun d small le =>
    Nat.lt_of_le_of_lt le small
  unfold hexValue? at digit
  split at digit
  · next range => exact bounded '9' (by decide) range.2
  split at digit
  · next range => exact bounded 'F' (by decide) range.2
  split at digit
  · next range => exact bounded 'f' (by decide) range.2
  · cases digit

theorem isAlphanum_hexDigit {n : Nat} (small : n < 16) : (hexDigit n).isAlphanum = true := by
  have all : ∀ n < 16, (hexDigit n).isAlphanum = true := by decide
  exact all n small

theorem toNat_of_isUnreserved {c : Char} (free : isUnreserved c = true) : c.toNat < 0x80 := by
  simp only [isUnreserved, Bool.or_eq_true, beq_iff_eq] at free
  rcases free with (((sign | rfl) | rfl) | rfl) | rfl
  · exact toNat_of_isAlphanum sign
  · decide
  · decide
  · decide
  · decide

theorem octets_encodeOctet {b : Nat} (small : b < 256) (rest : List Char) :
    octets (encodeOctet b ++ rest) = b :: octets rest := by
  have high : b / 16 < 16 := by omega
  have low : b % 16 < 16 := by omega
  have whole : 16 * (b / 16) + b % 16 = b := by omega
  simp only [encodeOctet, List.cons_append, List.nil_append, octets, hexValue?_hexDigit high,
    hexValue?_hexDigit low, whole]

theorem octets_encodeOctets {bytes : List Nat} (small : ∀ b ∈ bytes, b < 256) (rest : List Char) :
    octets (bytes.flatMap encodeOctet ++ rest) = bytes ++ octets rest := by
  induction bytes with
  | nil => rfl
  | cons b bytes ih =>
    rw [List.flatMap_cons, List.append_assoc, octets_encodeOctet (small b List.mem_cons_self),
      ih fun other mem => small other (List.mem_cons_of_mem _ mem), List.cons_append]

theorem octets_cons {c : Char} (plain : c ≠ '%') (rest : List Char) :
    octets (c :: rest) = Utf8.octets c ++ octets rest := by
  rw [octets]
  rintro a b tail rfl
  exact absurd rfl plain

variable {keep : Char → Bool}

theorem octets_encodeChar (sign : keep '%' = false) (c : Char) (rest : List Char) :
    octets (encodeChar keep c ++ rest) = Utf8.octets c ++ octets rest := by
  unfold encodeChar
  split
  · next kept =>
    have plain : c ≠ '%' := by
      rintro rfl
      rw [sign] at kept
      cases kept
    exact octets_cons plain rest
  · exact octets_encodeOctets (fun b mem => Utf8.octets_lt mem) rest

theorem octets_encode (sign : keep '%' = false) (s : List Char) :
    octets (encode keep s) = Utf8.encode s := by
  induction s with
  | nil => rfl
  | cons c s ih =>
    rw [encode, List.flatMap_cons, octets_encodeChar sign, Utf8.encode, List.flatMap_cons]
    exact congrArg (Utf8.octets c ++ ·) ih

theorem decode_encode (sign : keep '%' = false) (s : List Char) : decode (encode keep s) = s := by
  rw [decode, octets_encode sign, Utf8.decode_encode]

theorem mem_encodeChar {c d : Char} (mem : d ∈ encodeChar keep c) :
    keep d = true ∨ isUnreserved d = true ∨ d = '%' := by
  unfold encodeChar at mem
  split at mem
  · next kept =>
    rw [List.mem_singleton.mp mem]
    exact (Bool.or_eq_true_iff.mp kept).imp_right Or.inl
  · obtain ⟨b, inside, mem⟩ := List.mem_flatMap.mp mem
    have small := Utf8.octets_lt inside
    simp only [encodeOctet, List.mem_cons, List.not_mem_nil, or_false] at mem
    have high := isAlphanum_hexDigit (show b / 16 < 16 by omega)
    have low := isAlphanum_hexDigit (show b % 16 < 16 by omega)
    rcases mem with rfl | rfl | rfl
    · exact Or.inr (Or.inr rfl)
    · exact Or.inr (Or.inl (by simp [isUnreserved, high]))
    · exact Or.inr (Or.inl (by simp [isUnreserved, low]))

theorem mem_encode {s : List Char} {d : Char} (mem : d ∈ encode keep s) :
    keep d = true ∨ isUnreserved d = true ∨ d = '%' := by
  obtain ⟨c, -, mem⟩ := List.mem_flatMap.mp mem
  exact mem_encodeChar mem

theorem encode_eq_nil {s : List Char} (sign : keep '%' = false) :
    encode keep s = [] ↔ s = [] := by
  constructor
  · intro empty
    rw [← decode_encode sign s, empty]
    rfl
  · rintro rfl
    rfl

end Percent

end SystemCatalog.Text
