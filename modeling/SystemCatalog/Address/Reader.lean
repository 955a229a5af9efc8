import SystemCatalog.Address
import SystemCatalog.Address.Authority

/-!
# Reading addresses

An address is a scheme, an authority after two slashes, a path, a query after a question mark and a
fragment after a number sign, which is ignored.  Controls and spaces in front of it do not count,
nor do tabs and line breaks anywhere.
-/

namespace SystemCatalog.Address

open Text

def schemes : List String := ["crate", "postgres", "postgresql"]

def clean (s : List Char) : List Char :=
  (s.dropWhile fun c => c.toNat ≤ 0x20).filter fun c => c != '\t' && c != '\n' && c != '\r'

def isSchemeChar (c : Char) : Bool := c.isAlphanum || c == '+' || c == '-' || c == '.'

/-- The scheme in small letters, and what follows its colon; a text that does not start with a
scheme has an empty one. -/
def splitScheme (s : List Char) : List Char × List Char :=
  match splitFirst? ':' s with
  | some (c :: scheme, rest) =>
    if c.isAlpha && scheme.all isSchemeChar then ((c :: scheme).map Char.toLower, rest)
    else ([], s)
  | _ => ([], s)

def endsAuthority (c : Char) : Bool := c == '/' || c == '?' || c == '#'

/-- The authority after two slashes, which may be missing, and what follows it. -/
def splitAuthority : List Char → List Char × List Char
  | '/' :: '/' :: rest =>
    let authority := rest.takeWhile fun c => !endsAuthority c
    (authority, rest.drop authority.length)
  | s => ([], s)

def splitPath (s : List Char) : List Char × List Char :=
  Authority.cut '?' (s.takeWhile (· != '#'))

def userText (part : Option (List Char)) : Option String :=
  (part.bind Authority.present).map fun s => String.ofList (Percent.decode s)

def refuse : Option Fault → Except Fault Unit
  | some f => .error f
  | none => .ok ()

def ofText (text : String) : Except Fault Address := do
  let (scheme, afterScheme) := splitScheme (clean text.toList)
  let (authority, rest) := splitAuthority afterScheme
  refuse (Authority.bracketComplaint? authority)
  refuse (Authority.characterComplaint? authority)
  let scheme := String.ofList scheme
  if !schemes.contains scheme then throw (.unsupportedScheme scheme)
  let (path, query) := splitPath rest
  let parts := Authority.ofChars authority
  let port ← parts.portNumber
  return {
    scheme
    username := userText parts.username
    password := userText parts.password
    host := parts.hostName?
    port
    schema := (Authority.present (path.dropWhile (· == '/'))).map String.ofList
    query := Query.ofChars query }

end SystemCatalog.Address
