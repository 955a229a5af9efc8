import SystemCatalog.Text.Cut

/-!
# Arrays of access entries

An access list is an array in braces.  Commas separate its entries, except between double quotes;
a double quote after a backslash does not open or close anything.
-/

namespace SystemCatalog.Acl

/-- The pieces between the separating commas, for text that starts inside of quotes or not and
comes after the character `previous`. -/
def pieces : (quoted : Bool) → (previous : Char) → List Char → List (List Char)
  | _, _, [] => [[]]
  | quoted, previous, c :: rest =>
    if c = ',' ∧ quoted = false then [] :: pieces quoted c rest
    else
      match pieces (if c = '"' ∧ previous ≠ '\\' then !quoted else quoted) c rest with
      | piece :: more => (c :: piece) :: more
      | [] => [[c]]

/-- The list with its last text cut by its last character, which is the closing brace. -/
def dropClosing : List (List Char) → List (List Char)
  | [] => []
  | [last] => [last.dropLast]
  | piece :: more => piece :: dropClosing more

def rawEntries (array : List Char) : List (List Char) :=
  dropClosing (pieces false ' ' array.tail)

/-- The entries of an array: quotes around an entry are taken away, and empty entries are no
entries. -/
def entries (array : List Char) : List (List Char) :=
  if array.isEmpty then []
  else ((rawEntries array).map (Text.unwrap '"' '"')).filter (!·.isEmpty)

def tokens (array : Option String) : List String :=
  (entries (array.getD "").toList).map String.ofList

end SystemCatalog.Acl
