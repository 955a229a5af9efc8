import SystemCatalog.Number.Binary64.Shortest

/-!
# Decimal places

A number written with a given count of digits, rounded from its exact value, a half to the even
digit.
-/

namespace SystemCatalog.Number.Binary64

def padded (width n : Nat) : List Char :=
  let digits := Nat.toDigits 10 n
  List.replicate (width - digits.length) '0' ++ digits

/-- The digits with a point before the last `places` of them; `pointed` keeps a point that no digit
follows. -/
def withPoint (pointed : Bool) (places : Nat) (digits : List Char) : List Char :=
  let whole := digits.take (digits.length - places)
  let part := digits.drop (digits.length - places)
  whole ++ if places = 0 ∧ !pointed then [] else '.' :: part

/-- A count of places that is enough for every number, with an exponent or without: all further
digits are zeros. -/
def enoughPlaces : Nat := 1100

def furtherZeros (places : Nat) : List Char := List.replicate (places - enoughPlaces) '0'

def fixed (pointed : Bool) (places m : Nat) (e : Int) : List Char :=
  let (n, d) := scale m e
  let exact := min places enoughPlaces
  let digits := padded (exact + 1) (divideEven (n * Nat.pow 10 exact) d)
  withPoint pointed places (digits ++ furtherZeros places)

/-- The digits of `m · 2 ^ e`, one before the point and `places` after it, and the exponent of ten
that scales them. -/
def rounded (places m : Nat) (e : Int) : List Char × Int :=
  if m = 0 then (List.replicate (places + 1) '0', 0)
  else
    let top := decimalExponent m e
    let (n, d) := scale m e
    let shift := (places : Int) - top
    let (n, d) :=
      if 0 ≤ shift then (n * Nat.pow 10 shift.toNat, d) else (n, d * Nat.pow 10 (-shift).toNat)
    let q := divideEven n d
    if q = Nat.pow 10 (places + 1) then (padded 0 (Nat.pow 10 places), top + 1)
    else (padded 0 q, top)

/-- The digits of `m · 2 ^ e`, one before the point and `places` after it, and the exponent of ten
that scales them, of which only the places that are enough are computed. -/
def scientific (places m : Nat) (e : Int) : List Char × Int :=
  let (digits, power) := rounded (min places enoughPlaces) m e
  (digits ++ furtherZeros places, power)

def exponentText (power : Int) : List Char :=
  'e' :: (if power < 0 then '-' else '+') :: padded 2 power.natAbs

/-- `m · 2 ^ e` with one digit before the point, the given count after it and an exponent. -/
def exponential (pointed : Bool) (places m : Nat) (e : Int) : List Char :=
  let (digits, power) := scientific places m e
  withPoint pointed places digits ++ exponentText power

/-- The places of a written number without the zeros at their end, and without a point that nothing
follows. -/
def trimPlaces (s : List Char) : List Char :=
  if s.contains '.' then
    let kept := dropZeros s
    if kept.getLast? = some '.' then kept.dropLast else kept
  else s

/-- `m · 2 ^ e` with the given count of digits in all, with an exponent if it is very small or has
more digits before the point; `full` keeps zeros at the end. -/
def general (full : Bool) (count m : Nat) (e : Int) : List Char :=
  let count := if full then max count 1 else min (max count 1) enoughPlaces
  let (digits, power) := scientific (count - 1) m e
  let trim := if full then id else trimPlaces
  if power < -4 ∨ (count : Int) ≤ power then
    trim (withPoint full (count - 1) digits) ++ exponentText power
  else trim (fixed full (count - 1 - power).toNat m e)

end SystemCatalog.Number.Binary64
