import SystemCatalog.Assoc
import SystemCatalog.Text.Cut
import SystemCatalog.Text.Percent

/-!
# Query options

The query of an address is a list of options between ampersands, each a name and a value with an
equals sign between them.  Both are percent coded, and a plus sign stands for a space.  Options
without a value are no options, and of options of one name the first counts.
-/

namespace SystemCatalog.Address.Query

open Text

def replace (old new : Char) (s : List Char) : List Char :=
  s.map fun c => if c = old then new else c

def decodeItem (s : List Char) : List Char := Percent.decode (replace '+' ' ' s)

def encodeItem (s : List Char) : List Char :=
  replace ' ' '+' (Percent.encode (fun c => c == '*' || c == ' ') s)

def item? (piece : List Char) : Option (String × String) :=
  match splitFirst? '=' piece with
  | some (name, value) =>
    if value.isEmpty then none
    else some (String.ofList (decodeItem name), String.ofList (decodeItem value))
  | none => none

def addFirst (options : List (String × String)) (option : String × String) :
    List (String × String) :=
  if options.any fun o => o.1 == option.1 then options else options ++ [option]

def ofChars (s : List Char) : List (String × String) :=
  ((splitOn '&' s).filterMap item?).foldl addFirst []

def encodeOption (option : String × String) : List Char :=
  encodeItem option.1.toList ++ '=' :: encodeItem option.2.toList

def encode (options : List (String × String)) : List Char :=
  List.intercalate ['&'] (options.map encodeOption)

end SystemCatalog.Address.Query
