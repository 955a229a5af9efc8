import SystemCatalog.Number.Binary64
import SystemCatalog.Number.Numeral

/-!
# Reading double precision numbers

A number is an optional sign and digits with at most one point among them and an optional exponent,
or one of the words for infinity and not a number in letters of either case.  Padding and
underscores follow the rules of integer numerals.
-/

namespace SystemCatalog.Number.Binary64

open Text

/-- The text without its underscores, each of which has to stand between two digits. -/
def dropUnderscores : (afterDigit : Bool) → List Char → Option (List Char)
  | _, [] => some []
  | afterDigit, '_' :: rest =>
    match rest with
    | c :: _ => if afterDigit && isDigit c then dropUnderscores false rest else none
    | [] => none
  | _, c :: rest => (dropUnderscores (isDigit c) rest).map (c :: ·)

/-- The exponent after the digits of a number: nothing, or the letter and an integer. -/
def readExponent : List Char → Option Int
  | [] => some 0
  | c :: rest =>
    if c = 'e' ∨ c = 'E' then
      let (negative, digits) := splitSign rest
      if digits.isEmpty || !digits.all isDigit then none
      else some (if negative then -(natOfDigits digits) else natOfDigits digits)
    else none

def readDecimal (negative : Bool) (s : List Char) : Option Binary64 :=
  let whole := s.takeWhile isDigit
  let rest := s.dropWhile isDigit
  let (part, rest) :=
    match rest with
    | '.' :: rest => (rest.takeWhile isDigit, rest.dropWhile isDigit)
    | _ => ([], rest)
  let digits := whole ++ part
  if digits.isEmpty then none
  else
    (readExponent rest).map fun e =>
      let size := (digits.dropWhile fun c => digitValue? c == some 0).length
      ofDecimal negative (natOfDigits digits) size (e - part.length)

def read? (s : List Char) : Option Binary64 :=
  (dropUnderscores false (unpad s)).bind fun s =>
    let (negative, body) := splitSign s
    let word := body.map Char.toLower
    if word = ['n', 'a', 'n'] then some .nan
    else if word = ['i', 'n', 'f'] ∨ word = ['i', 'n', 'f', 'i', 'n', 'i', 't', 'y'] then
      some (.infinite negative)
    else readDecimal negative body

end SystemCatalog.Number.Binary64
