import SystemCatalog.Address.Literal
import SystemCatalog.Number.Numeral
import SystemCatalog.Text.Compatibility
import SystemCatalog.Text.LetterCase

/-!
# Authorities

The authority of an address names a user with a password, a host and a port.  The last at sign ends
the user's part, the first colon in it begins the password, and a host may stand in brackets.
-/

namespace SystemCatalog.Address

open Text

structure Authority where
  username : Option (List Char) := none
  password : Option (List Char) := none
  host : List Char
  port : List Char

namespace Authority

/-- What comes before and after the first occurrence of a character; without it, the whole text and
nothing. -/
def cut (separator : Char) (s : List Char) : List Char × List Char :=
  (splitFirst? separator s).getD (s, [])

def hostAndPort (s : List Char) : List Char × List Char :=
  match splitFirst? '[' s with
  | some (_, bracketed) =>
    let (host, rest) := cut ']' bracketed
    (host, (cut ':' rest).2)
  | none => cut ':' s

def ofChars (s : List Char) : Authority :=
  match splitLast? '@' s with
  | some (user, rest) =>
    let (host, port) := hostAndPort rest
    match splitFirst? ':' user with
    | some (name, password) => { username := some name, password := some password, host, port }
    | none => { username := some user, host, port }
  | none =>
    let (host, port) := hostAndPort s
    { host, port }

/-- What is wrong with the brackets of an authority, if anything is: they come in pairs, nothing but
the user stands before them and nothing but a port after them, and between them stands a literal
address. -/
def bracketComplaint? (s : List Char) : Option Fault :=
  match s.contains '[', s.contains ']' with
  | false, false => none
  | true, true =>
    let rest := ((splitLast? '@' s).map (·.2)).getD s
    match splitFirst? '[' rest with
    | some (before, bracketed) =>
      let (host, after) := cut ']' bracketed
      if before.isEmpty ∧ (after.isEmpty ∨ after.head? = some ':') then Literal.complaint? host
      else some .unbalancedBrackets
    | none => Literal.complaint? (cut ':' rest).1
  | _, _ => some .unbalancedBrackets

def characterComplaint? (s : List Char) : Option Fault :=
  if s.any isDisguisedSeparator then some (.unsafeAuthority (String.ofList s)) else none

def present (s : List Char) : Option (List Char) := if s.isEmpty then none else some s

/-- The host in small letters, if there is one; the letters of a zone stay as they are. -/
def hostName? (a : Authority) : Option String :=
  (present a.host).map fun host =>
    let number := host.takeWhile (· != '%')
    String.ofList (lower number ++ host.drop number.length)

def portNumber (a : Authority) : Except Fault (Option Int) :=
  match present a.port with
  | none => .ok none
  | some port =>
    if !port.all Char.isDigit then .error (.badPort (String.ofList port))
    else
      match Number.evaluate port with
      | .error (.tooLong digits) => .error (.longNumeral digits)
      | .error .malformed => .error (.badPort (String.ofList port))
      | .ok n => if n ≤ 65535 then .ok (some n) else .error .portOutOfRange

end Authority

end SystemCatalog.Address
