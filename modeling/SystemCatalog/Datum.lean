import SystemCatalog.Number.Binary64

/-!
# Data cells

A driver delivers cells of many kinds, and so do the options and parameters that callers pass on.
`Datum` is one such value; dictionaries keep the order in which their keys came.  Integers are taken
to be short enough to be written out, which those of more than 4300 digits are not.
-/

namespace SystemCatalog

open Number

/-- A value delivered by a driver or passed on by a caller. -/
inductive Datum where
  | null
  | bool (b : Bool)
  | int (n : Int)
  | float (x : Binary64)
  | text (s : String)
  | list (items : List Datum)
  | tuple (items : List Datum)
  | dict (entries : List (Datum × Datum))
  deriving Inhabited

namespace Datum

/-- Whether the value counts as true: null, zero and empty values do not. -/
def truthy : Datum → Bool
  | null => false
  | bool b => b
  | int n => n != 0
  | float x => !x.isZero
  | text s => s != ""
  | list items => !items.isEmpty
  | tuple items => !items.isEmpty
  | dict entries => !entries.isEmpty

def isNull : Datum → Bool
  | null => true
  | _ => false

def ofOption : Option String → Datum
  | none => null
  | some s => text s

/-- What a loop over the value yields: a text's characters, a dictionary's keys. -/
def elements? : Datum → Option (List Datum)
  | text s => some (s.toList.map fun c => text (String.singleton c))
  | list items => some items
  | tuple items => some items
  | dict entries => some (entries.map (·.1))
  | _ => none

def size? (d : Datum) : Option Nat := d.elements?.map List.length

end Datum

end SystemCatalog
