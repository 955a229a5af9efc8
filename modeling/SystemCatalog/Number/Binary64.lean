/-!
# Double precision numbers

A number of the IEEE 754 binary64 format as exact data: a finite one is a sign, a significand below
`2 ^ 53` and the exponent of two that scales it.  `Binary64.nearest` rounds a fraction to the
nearest such number, ties to the even significand.
-/

namespace SystemCatalog.Number

inductive Binary64 where
  | nan
  | infinite (negative : Bool)
  | finite (negative : Bool) (significand : Nat) (exponent : Int)
  deriving DecidableEq, Inhabited

namespace Binary64

def minExponent : Int := -1074

def maxExponent : Int := 971

def zero (negative : Bool) : Binary64 := .finite negative 0 minExponent

def scale (n : Nat) (e : Int) : Nat × Nat :=
  if 0 ≤ e then (n * Nat.pow 2 e.toNat, 1) else (n, Nat.pow 2 (-e).toNat)

def divideEven (num den : Nat) : Nat :=
  let q := num / den
  let r := num % den
  if 2 * r < den then q else if den < 2 * r then q + 1 else if q % 2 = 0 then q else q + 1

def inUnits (num den : Nat) (e : Int) : Nat × Nat :=
  if 0 ≤ e then (num, den * Nat.pow 2 e.toNat) else (num * Nat.pow 2 (-e).toNat, den)

def nearest (negative : Bool) (num den : Nat) : Binary64 :=
  if num = 0 then zero negative
  else
    let low : Int := max ((num.log2 : Int) - den.log2 - 53) minExponent
    let (n, d) := inUnits num den low
    let e := if Nat.pow 2 53 ≤ n / d then low + 1 else low
    let (n, d) := inUnits num den e
    let m := divideEven n d
    let (m, e) := if m = Nat.pow 2 53 then (Nat.pow 2 52, e + 1) else (m, e)
    if maxExponent < e then .infinite negative else .finite negative m e

/-- The number nearest to `m · 10 ^ e`, where `m` has `digits` decimal digits. -/
def ofDecimal (negative : Bool) (m digits : Nat) (e : Int) : Binary64 :=
  if m = 0 then zero negative
  else if 400 < e + digits then .infinite negative
  else if e + digits < -400 then zero negative
  else if 0 ≤ e then nearest negative (m * Nat.pow 10 e.toNat) 1
  else nearest negative m (Nat.pow 10 (-e).toNat)

def isZero : Binary64 → Bool
  | .finite _ m _ => m == 0
  | _ => false

def truncate? : Binary64 → Option Int
  | .finite negative m e =>
    let (n, d) := scale m e
    some (if negative then -((n / d : Nat) : Int) else (n / d : Nat))
  | _ => none

def compareScaled (a : Int) (e : Int) (b : Int) (f : Int) : Ordering :=
  let low := min e f
  compare (a * Nat.pow 2 (e - low).toNat) (b * Nat.pow 2 (f - low).toNat)

/-- The order of two numbers; not a number is not ordered. -/
def compare? (x y : Binary64) : Option Ordering :=
  match x, y with
  | .nan, _ | _, .nan => none
  | .infinite a, .infinite b => some (compare b.toNat a.toNat)
  | .infinite a, .finite .. => some (if a then .lt else .gt)
  | .finite .., .infinite b => some (if b then .gt else .lt)
  | .finite a m e, .finite b n f =>
    some (compareScaled (if a then -m else m) e (if b then -n else n) f)

def compareInt? (x : Binary64) (n : Int) : Option Ordering :=
  match x with
  | .nan => none
  | .infinite a => some (if a then .lt else .gt)
  | .finite a m e => some (compareScaled (if a then -m else m) e n 0)

end Binary64

end SystemCatalog.Number
