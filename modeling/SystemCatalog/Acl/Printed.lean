import SystemCatalog.Acl.Array

/-!
# Printed arrays

Servers print an array of texts in braces, with commas between its elements.  An element that holds
a sign of arrays or white space stands between double quotes, with a backslash in front of every
double quote and every backslash in it.  Any other element stands as it is.
-/

namespace SystemCatalog.Acl

namespace Element

def signs : List Char := [',', '\x7b', '\x7d', '"', '\\']

/-- Whether the element stands between quotes.  Which characters are white space is up to the
server. -/
def isWrapped (isSpace : Char → Bool) (element : List Char) : Bool :=
  element.any fun c => isSpace c || signs.contains c

def escapeChar (c : Char) : List Char := if c = '"' ∨ c = '\\' then ['\\', c] else [c]

def escaped (element : List Char) : List Char := element.flatMap escapeChar

def printed (isSpace : Char → Bool) (element : List Char) : List Char :=
  if isWrapped isSpace element then '"' :: (escaped element ++ ['"']) else element

def token (isSpace : Char → Bool) (element : List Char) : List Char :=
  if isWrapped isSpace element then escaped element else element

end Element

def printed (isSpace : Char → Bool) (elements : List String) : String :=
  let texts := elements.map fun element => Element.printed isSpace element.toList
  String.ofList ('\x7b' :: (List.intercalate [','] texts ++ ['\x7d']))

end SystemCatalog.Acl
