import SystemCatalog.Acl.Privilege
import SystemCatalog.Text.Cut

/-!
# Access entries

An entry names a grantee, the letters of privileges after an equals sign, and the grantor after a
slash, which may be missing.  A star after a letter lets the grantee pass the privilege on.
-/

namespace SystemCatalog.Acl

def everyone : String := "PUBLIC"

def passOn : Char := '*'

structure Entry where
  grantee : String
  grantor : Option String
  privileges : List (Privilege × Bool)
  codes : String
  deriving DecidableEq, Repr

/-- The privileges that letters stand for, each with whether it may be passed on. -/
def decodeCodes : List Char → List (Privilege × Bool)
  | [] => []
  | c :: rest =>
    if c = passOn then decodeCodes rest
    else (Privilege.ofCode c, rest.head? == some passOn) :: decodeCodes rest

namespace Entry

def make (grantee codes : List Char) (grantor : Option (List Char)) : Entry where
  grantee := if grantee.isEmpty then everyone else String.ofList grantee
  grantor := grantor.map String.ofList
  privileges := decodeCodes codes
  codes := String.ofList codes

/-- The entry that a token stands for: the last equals sign ends the grantee, and the last slash
after it begins the grantor.  A token without an equals sign stands for none. -/
def ofChars? (token : List Char) : Option Entry :=
  (Text.splitLast? '=' token).map fun (grantee, rest) =>
    match Text.splitLast? '/' rest with
    | some (codes, grantor) => make grantee codes (some grantor)
    | none => make grantee rest none

def ofToken (token : String) : Except Fault Entry :=
  match ofChars? token.toList with
  | some entry => .ok entry
  | none => .error (.malformedEntry token)

end Entry

end SystemCatalog.Acl
