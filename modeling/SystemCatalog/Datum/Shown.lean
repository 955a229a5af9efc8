import SystemCatalog.Datum
import SystemCatalog.Number.Binary64.Shortest
import SystemCatalog.Text.Quoted

/-!
# Data cells in messages

`shown` writes a value so that its kind can be told: texts stand between quotes, a tuple of one
element keeps a comma.  `plain` writes a text as it is.
-/

namespace SystemCatalog.Datum

def commaJoin (parts : List String) : String := String.intercalate ", " parts

mutual

def shown : Datum → String
  | null => "None"
  | bool b => if b then "True" else "False"
  | int n => toString n
  | float x => x.text
  | text s => Text.quoted s
  | list items => "[" ++ commaJoin (shownAll items) ++ "]"
  | tuple items =>
    match shownAll items with
    | [one] => "(" ++ one ++ ",)"
    | parts => "(" ++ commaJoin parts ++ ")"
  | dict entries => "\x7b" ++ commaJoin (shownEntries entries) ++ "\x7d"

def shownAll : List Datum → List String
  | [] => []
  | d :: rest => shown d :: shownAll rest

def shownEntries : List (Datum × Datum) → List String
  | [] => []
  | (k, v) :: rest => (shown k ++ ": " ++ shown v) :: shownEntries rest

end

def plain : Datum → String
  | text s => s
  | d => shown d

end SystemCatalog.Datum
