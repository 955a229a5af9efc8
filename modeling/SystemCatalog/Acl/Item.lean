import SystemCatalog.Acl.Grants

/-!
# Written access lists

Servers write an access list as an array: its entries in braces, with commas between them.  An
entry with a comma stands between double quotes, and any other may.
-/

namespace SystemCatalog.Acl

/-- What an access entry says.  Grantees may be named by any text without double quotes and
backslashes, an equals sign ends the grantee and a slash begins the grantor. -/
structure Clause where
  grantee : String
  codes : List (Char × Bool)
  grantor : Option String
  grantee_plain : ∀ c ∈ grantee.toList, c ≠ '"' ∧ c ≠ '\\'
  codes_plain : ∀ code ∈ codes, code.1 ∉ [passOn, '=', '/', '"', '\\']
  grantor_plain : ∀ name ∈ grantor, ∀ c ∈ name.toList, c ∉ ['=', '/', '"', '\\']

namespace Clause

/-- A letter, with the mark of a privilege that may be passed on. -/
def code : Char × Bool → List Char
  | (letter, passed) => if passed then [letter, passOn] else [letter]

def codeChars (clause : Clause) : List Char := clause.codes.flatMap code

def grantorChars (clause : Clause) : List Char :=
  match clause.grantor with
  | none => []
  | some name => '/' :: name.toList

/-- The entry as it is written without quotes around it. -/
def line (clause : Clause) : List Char :=
  clause.grantee.toList ++ '=' :: (clause.codeChars ++ clause.grantorChars)

/-- The decoded entry that says the same. -/
def entry (clause : Clause) : Entry where
  grantee := if clause.grantee = "" then everyone else clause.grantee
  grantor := clause.grantor
  privileges := clause.codes.map fun (letter, passed) => (Privilege.ofCode letter, passed)
  codes := String.ofList clause.codeChars

end Clause

structure Item extends Clause where
  quoted : Bool
  quoted_of_comma : ',' ∈ toClause.line → quoted = true

def Item.written (item : Item) : List Char :=
  if item.quoted then '"' :: (item.line ++ ['"']) else item.line

def written (items : List Item) : String :=
  String.ofList ('\x7b' :: (List.intercalate [','] (items.map Item.written) ++ ['\x7d']))

end SystemCatalog.Acl
