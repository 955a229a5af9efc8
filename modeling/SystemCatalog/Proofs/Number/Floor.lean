import Mathlib.Data.Rat.Floor
import SystemCatalog.Datum.Whole

/-!
# Whole parts of positive numbers

A finite number is a rational one.  What a positive number has as its integer is the floor of this:
`whole_of_pos`.
-/

namespace SystemCatalog

namespace Number.Binary64

variable {x : Binary64} {q : ℚ}

def toRat? : Binary64 → Option ℚ
  | .finite negative m e => some ((if negative then -(m : ℚ) else m) * 2 ^ e)
  | _ => none

theorem scale_div (m : Nat) (e : Int) : ((scale m e).1 : ℚ) / (scale m e).2 = m * 2 ^ e := by
  unfold scale
  split
  · next whole =>
    obtain ⟨n, rfl⟩ := Int.eq_ofNat_of_zero_le whole
    rw [Int.toNat_natCast, Nat.pow_eq, zpow_natCast]
    push_cast
    rw [div_one]
  · next part =>
    obtain ⟨n, eq⟩ := Int.eq_ofNat_of_zero_le (show 0 ≤ -e by omega)
    have power : (2 : ℚ) ^ e = (2 ^ n)⁻¹ := by
      rw [← zpow_natCast, ← zpow_neg, ← eq, neg_neg]
    rw [eq, Int.toNat_natCast, Nat.pow_eq, power, div_eq_mul_inv]
    push_cast
    rfl

theorem exists_of_pos (value : x.toRat? = some q) (positive : 0 < q) :
    ∃ m e, x = .finite false m e ∧ 0 < m ∧ q = m * 2 ^ e := by
  cases x with
  | nan => cases value
  | infinite negative => cases value
  | finite negative m e =>
    obtain rfl := Option.some.inj value
    have power : (0 : ℚ) < 2 ^ e := zpow_pos (by decide) e
    have sign := (mul_pos_iff_of_pos_right power).mp positive
    cases negative with
    | true =>
      rw [if_pos rfl, neg_pos] at sign
      exact absurd sign (not_lt_of_ge (Nat.cast_nonneg m))
    | false =>
      rw [if_neg (by decide)] at sign ⊢
      exact ⟨m, e, rfl, Nat.cast_pos.mp sign, rfl⟩

theorem truncate?_of_pos (value : x.toRat? = some q) (positive : 0 < q) :
    x.truncate? = some ⌊q⌋ := by
  obtain ⟨m, e, rfl, -, rfl⟩ := exists_of_pos value positive
  rw [← scale_div, Rat.floor_natCast_div_natCast]
  rfl

end Number.Binary64

namespace Datum

variable {d : Datum} {q : ℚ}

/-- The number that a value is, if it is a finite one; the truth values are numbers, too. -/
def toRat? : Datum → Option ℚ
  | bool b => some b.toNat
  | int n => some n
  | float x => x.toRat?
  | _ => none

theorem truthy_of_pos (value : d.toRat? = some q) (positive : 0 < q) : d.truthy = true := by
  cases d with
  | bool b =>
    obtain rfl := Option.some.inj value
    cases b with
    | true => rfl
    | false => exact absurd positive (by decide)
  | int n =>
    obtain rfl := Option.some.inj value
    rw [truthy, bne_iff_ne]
    rintro rfl
    exact absurd positive (by decide)
  | float x =>
    obtain ⟨m, e, rfl, some, -⟩ := Number.Binary64.exists_of_pos value positive
    rw [truthy, Number.Binary64.isZero, Bool.not_eq_true', beq_eq_false_iff_ne]
    omega
  | _ => cases value

theorem whole_of_pos (value : d.toRat? = some q) (positive : 0 < q) : d.whole = .ok ⌊q⌋ := by
  cases d with
  | bool b =>
    obtain rfl := Option.some.inj value
    rw [Int.floor_natCast]
    rfl
  | int n =>
    obtain rfl := Option.some.inj value
    rw [Int.floor_intCast]
    rfl
  | float x =>
    have part := Number.Binary64.truncate?_of_pos value positive
    obtain ⟨m, e, rfl, -, -⟩ := Number.Binary64.exists_of_pos value positive
    rw [whole, part]
    · rfl
    · rintro ⟨⟩
    · rintro _ ⟨⟩
  | _ => cases value

end Datum

end SystemCatalog
