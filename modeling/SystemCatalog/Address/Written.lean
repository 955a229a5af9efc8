import SystemCatalog.Address.Query

/-!
# Written addresses

An address as text: a scheme, the user with a password in front of the host, a port, a schema and
options.  Parts that are missing leave no sign behind.
-/

namespace SystemCatalog.Address

open Text

/-- A text in percent form, of which only unreserved characters stand for themselves. -/
def quote (s : String) : List Char := Percent.encode (fun _ => false) s.toList

structure Written where
  scheme : List Char
  user : Option (List Char × Option (List Char)) := none
  host : List Char := []
  port : Option (List Char) := none
  schema : Option (List Char) := none
  query : List (String × String) := []

namespace Written

def signed (sign : Char) : Option (List Char) → List Char
  | none => []
  | some s => sign :: s

def userPart : Option (List Char × Option (List Char)) → List Char
  | none => []
  | some (user, password) => user ++ signed ':' password ++ ['@']

def chars (w : Written) : List Char :=
  w.scheme ++ "://".toList ++ userPart w.user ++ w.host ++ signed ':' w.port ++
    signed '/' w.schema ++
    signed '?' (if w.query.isEmpty then none else some (Query.encode w.query))

def text (w : Written) : String := String.ofList w.chars

end Written

end SystemCatalog.Address
