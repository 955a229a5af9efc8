import SystemCatalog.Text.Utf8

/-!
# Percent coding

A character is written as itself or octet by octet, each octet as a percent sign and two
hexadecimal digits.  Reading takes a percent sign without two such digits as itself.
-/

namespace SystemCatalog.Text.Percent

/-- The characters that always stand for themselves: ASCII letters and digits and four signs. -/
def isUnreserved (c : Char) : Bool :=
  c.isAlphanum || c == '_' || c == '.' || c == '-' || c == '~'

def hexDigit (n : Nat) : Char := Char.ofNat (if n < 10 then 0x30 + n else 0x37 + n)

def hexValue? (c : Char) : Option Nat :=
  if '0' ≤ c ∧ c ≤ '9' then some (c.toNat - 0x30)
  else if 'A' ≤ c ∧ c ≤ 'F' then some (c.toNat - 0x37)
  else if 'a' ≤ c ∧ c ≤ 'f' then some (c.toNat - 0x57)
  else none

def encodeOctet (b : Nat) : List Char := ['%', hexDigit (b / 16), hexDigit (b % 16)]

/-- A character as itself if it is kept or unreserved, and otherwise in percent form. -/
def encodeChar (keep : Char → Bool) (c : Char) : List Char :=
  if keep c || isUnreserved c then [c] else (Utf8.octets c).flatMap encodeOctet

def encode (keep : Char → Bool) (s : List Char) : List Char := s.flatMap (encodeChar keep)

def octets : List Char → List Nat
  | [] => []
  | '%' :: a :: b :: rest =>
    match hexValue? a, hexValue? b with
    | some high, some low => (16 * high + low) :: octets rest
    | _, _ => '%'.toNat :: octets (a :: b :: rest)
  | c :: rest => Utf8.octets c ++ octets rest

def decode (s : List Char) : List Char := Utf8.decode (octets s)

end SystemCatalog.Text.Percent
