import SystemCatalog.Text.Blank
import SystemCatalog.Text.Digit

/-!
# Integer numerals

A numeral is an optional sign and a run of decimal digits of any script, with single underscores
allowed between digits and blanks around it.  Numerals of more than 4300 digits are refused before
they are evaluated.
-/

namespace SystemCatalog.Number

open Text

/-- The blanks that may surround a numeral: all but the four information separators. -/
def isPadding (c : Char) : Bool :=
  isBlank c && !(0x1c ≤ c.toNat && c.toNat ≤ 0x1f)

def unpad (s : List Char) : List Char :=
  ((s.dropWhile isPadding).reverse.dropWhile isPadding).reverse

def digitLimit : Nat := 4300

inductive Misread where
  | malformed
  | tooLong (digits : Nat)
  deriving DecidableEq

def splitSign : List Char → Bool × List Char
  | '-' :: rest => (true, rest)
  | '+' :: rest => (false, rest)
  | s => (false, s)

def grouped : (afterDigit : Bool) → List Char → Bool
  | afterDigit, [] => afterDigit
  | afterDigit, c :: rest =>
    if c = '_' then afterDigit && grouped false rest else grouped (isDigit c) rest

def evaluate (digits : List Char) : Except Misread Nat :=
  if digitLimit < digits.length then .error (.tooLong digits.length) else .ok (natOfDigits digits)

def readInteger (s : List Char) : Except Misread Int :=
  let (negative, body) := splitSign (unpad s)
  let run := body.takeWhile fun c => isDigit c || c == '_'
  if !grouped false run then .error .malformed
  else
    match evaluate (run.filter (· != '_')) with
    | .error e => .error e
    | .ok n =>
      if run.length < body.length then .error .malformed
      else .ok (if negative then -n else n)

end SystemCatalog.Number
