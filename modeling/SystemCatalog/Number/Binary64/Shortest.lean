import SystemCatalog.Number.Binary64

/-!
# Shortest decimal digits

`shortest` gives the fewest decimal digits that read back as the number, the nearest to it of
those, and of two equally near the even one.  `text` places the point: positional from `1e-4` up to
`1e16`, with an exponent of at least two digits outside.
-/

namespace SystemCatalog.Number.Binary64

/-- A grid of decimal numbers, the reals that round to a number, and the number itself, all in one
unit: the grid's points are the multiples of `step`. -/
structure Window where
  step : Nat
  value : Nat
  low : Nat
  high : Nat
  /-- Whether the ends of the interval round to the number. -/
  closed : Bool

def window (m : Nat) (e k : Int) : Window :=
  let gap := if m = Nat.pow 2 52 ∧ minExponent < e then 1 else 2
  let (unit, unitPart) := scale 1 (e - 2)
  let (grid, gridPart) := if 0 ≤ k then (Nat.pow 10 k.toNat, 1) else (1, Nat.pow 10 (-k).toNat)
  let unit := unit * gridPart
  { step := grid * unitPart
    value := 4 * m * unit
    low := (4 * m - gap) * unit
    high := (4 * m + 2) * unit
    closed := m % 2 == 0 }

def Window.holds (w : Window) (d : Nat) : Bool :=
  let point := d * w.step
  if w.closed then w.low ≤ point && point ≤ w.high else w.low < point && point < w.high

def Window.pick? (w : Window) : Option Nat :=
  let below := w.value / w.step
  let above := below + 1
  match w.holds below, w.holds above with
  | false, false => none
  | true, false => some below
  | false, true => some above
  | true, true =>
    let left := w.value - below * w.step
    let right := above * w.step - w.value
    some (if left < right ∨ (left = right ∧ below % 2 = 0) then below else above)

def reaches (m : Nat) (e k : Int) : Bool :=
  let (n, d) := scale m e
  if 0 ≤ k then Nat.pow 10 k.toNat * d ≤ n else d ≤ n * Nat.pow 10 (-k).toNat

def decimalExponent (m : Nat) (e : Int) : Int :=
  let guess := Int.fdiv (((m.log2 : Int) + e) * 30103) 100000
  if reaches m e (guess + 1) then guess + 1 else if reaches m e guess then guess else guess - 1

/-- The fewest digits of `m · 2 ^ e` from `tried` digits on, with the exponent of ten that scales
them; 17 digits always suffice. -/
def shortestFrom (m : Nat) (e top : Int) (tried : Nat) : (left : Nat) → Nat × Int
  | 0 => (0, 0)
  | left + 1 =>
    let k := top - tried
    match (window m e k).pick? with
    | some d => (d, k)
    | none => shortestFrom m e top (tried + 1) left

/-- The fewest decimal digits that read back as `m · 2 ^ e`, for a positive `m`, and the exponent
of ten that scales them. -/
def shortest (m : Nat) (e : Int) : Nat × Int :=
  shortestFrom m e (decimalExponent m e) 0 18

def dropZeros (digits : List Char) : List Char :=
  (digits.reverse.dropWhile (· == '0')).reverse

def place (digits : List Char) (point : Int) : List Char :=
  if -4 < point ∧ point ≤ 16 then
    if point ≤ 0 then '0' :: '.' :: List.replicate (-point).toNat '0' ++ digits
    else
      let p := point.toNat
      if digits.length ≤ p then digits ++ List.replicate (p - digits.length) '0' ++ ['.', '0']
      else digits.take p ++ '.' :: digits.drop p
  else
    let mantissa :=
      match digits with
      | [d] => [d]
      | d :: rest => d :: '.' :: rest
      | [] => []
    let power := point - 1
    let size := Nat.toDigits 10 power.natAbs
    mantissa ++ 'e' :: (if power < 0 then '-' else '+') ::
      List.replicate (2 - size.length) '0' ++ size

def text : Binary64 → String
  | .nan => "nan"
  | .infinite negative => if negative then "-inf" else "inf"
  | .finite negative m e =>
    let body :=
      if m = 0 then ['0', '.', '0']
      else
        let (d, k) := shortest m e
        let digits := Nat.toDigits 10 d
        place (dropZeros digits) (digits.length + k)
    String.ofList (if negative then '-' :: body else body)

end SystemCatalog.Number.Binary64
