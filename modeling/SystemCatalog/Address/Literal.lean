import SystemCatalog.Fault
import SystemCatalog.Text.Cut
import SystemCatalog.Text.Percent

/-!
# Literal addresses

A host in brackets is an IPv6 address or an address of a future version.  An IPv6 address has eight
groups of hexadecimal digits; a gap stands for one or more groups of zeros, the last two groups may
be written as an IPv4 address, and a zone may follow a percent sign.
-/

namespace SystemCatalog.Address.Literal

open Text

/-- Whether the text is a number from 0 to 255 in decimal digits, without zeros in front. -/
def isByte (s : List Char) : Bool :=
  !s.isEmpty && s.all Char.isDigit && s.length ≤ 3 && (s == ['0'] || s.head? != some '0') &&
    Nat.ofDigitChars 10 s 0 ≤ 255

def isIPv4 (s : List Char) : Bool :=
  let parts := splitOn '.' s
  parts.length == 4 && parts.all isByte

def isGroup (s : List Char) : Bool :=
  !s.isEmpty && s.length ≤ 4 && s.all fun c => (Percent.hexValue? c).isSome

/-- The groups with an IPv4 address at their end replaced by the two groups that it stands for;
what looks like one and is none makes them no groups. -/
def expandTail : List (List Char) → Option (List (List Char))
  | [] => some []
  | [last] =>
    if last.contains '.' then if isIPv4 last then some [['0'], ['0']] else none else some [last]
  | part :: rest => (expandTail rest).map (part :: ·)

/-- The parts before and after the first gap, which is an empty part inside of the address, for an
address that starts with the parts `before`. -/
def splitGap? (before : List (List Char)) :
    List (List Char) → Option (List (List Char) × List (List Char))
  | [] => none
  | [_] => none
  | part :: rest => if part.isEmpty then some (before, rest) else splitGap? (before ++ [part]) rest

/-- The groups on one side of a gap: none, if the gap ends the address there. -/
def besideGap (parts : List (List Char)) : List (List Char) := if parts == [[]] then [] else parts

def isIPv6Parts : List (List Char) → Bool
  | [] => false
  | first :: rest =>
    match splitGap? [first] rest with
    | some (before, after) =>
      let groups := besideGap before ++ besideGap after
      groups.length ≤ 7 && groups.all isGroup
    | none => rest.length == 7 && (first :: rest).all isGroup

def isIPv6Number (s : List Char) : Bool :=
  let parts := splitOn ':' s
  match expandTail parts with
  | some parts => isIPv6Parts parts
  | none => false

def isIPv6 (s : List Char) : Bool :=
  match splitFirst? '%' s with
  | some (number, zone) =>
    !number.contains '/' && !zone.isEmpty && !zone.contains '%' && !zone.contains '/' &&
      isIPv6Number number
  | none => !s.contains '/' && isIPv6Number s

/-- Whether the text after the letter `v` continues an address of a future version: hexadecimal
digits, a point and at least one character. -/
def isFuture (s : List Char) : Bool :=
  let digits := s.takeWhile fun c => (Percent.hexValue? c).isSome
  !digits.isEmpty &&
    match s.drop digits.length with
    | '.' :: rest => !rest.isEmpty && !rest.contains '\n'
    | _ => false

def complaint? : List Char → Option Fault
  | 'v' :: rest => if isFuture rest then none else some .badFutureAddress
  | host =>
    if isIPv4 host then some .bracketedIPv4
    else if isIPv6 host then none
    else some (.notAnAddress (String.ofList host))

end SystemCatalog.Address.Literal
