/-!
# UTF-8

Characters as octets.  Reading replaces what is not well formed: every longest run of octets that
begins a character without completing it, and every octet that begins none.
-/

namespace SystemCatalog.Text.Utf8

def octets (c : Char) : List Nat :=
  let n := c.toNat
  if n < 0x80 then [n]
  else if n < 0x800 then [0xc0 + n / 64, 0x80 + n % 64]
  else if n < 0x10000 then [0xe0 + n / 4096, 0x80 + n / 64 % 64, 0x80 + n % 64]
  else [0xf0 + n / 262144, 0x80 + n / 4096 % 64, 0x80 + n / 64 % 64, 0x80 + n % 64]

def encode (s : List Char) : List Nat := s.flatMap octets

def replacement : Char := '\ufffd'

/-- A character of which some octets have been read. -/
structure Unfinished where
  bits : Nat
  missing : Nat
  low : Nat := 0x80
  high : Nat := 0xbf

/-- The characters that the first octet of a character completes, and the one that it begins. -/
def lead (b : Nat) : List Char × Option Unfinished :=
  if b < 0x80 then ([Char.ofNat b], none)
  else if b < 0xc2 then ([replacement], none)
  else if b < 0xe0 then ([], some { bits := b - 0xc0, missing := 1 })
  else if b < 0xf0 then
    ([], some {
      bits := b - 0xe0
      missing := 2
      low := if b = 0xe0 then 0xa0 else 0x80
      high := if b = 0xed then 0x9f else 0xbf })
  else if b < 0xf5 then
    ([], some {
      bits := b - 0xf0
      missing := 3
      low := if b = 0xf0 then 0x90 else 0x80
      high := if b = 0xf4 then 0x8f else 0xbf })
  else ([replacement], none)

/-- The characters that an octet completes, and the one that it leaves unfinished. -/
def step : Option Unfinished → Nat → List Char × Option Unfinished
  | none, b => lead b
  | some u, b =>
    if u.low ≤ b ∧ b ≤ u.high then
      let bits := u.bits * 64 + (b - 0x80)
      if u.missing ≤ 1 then ([Char.ofNat bits], none)
      else ([], some { bits, missing := u.missing - 1 })
    else
      let (completed, next) := lead b
      (replacement :: completed, next)

def decodeFrom : Option Unfinished → List Nat → List Char
  | none, [] => []
  | some _, [] => [replacement]
  | unfinished, b :: rest =>
    let (completed, next) := step unfinished b
    completed ++ decodeFrom next rest

def decode (octets : List Nat) : List Char := decodeFrom none octets

end SystemCatalog.Text.Utf8
