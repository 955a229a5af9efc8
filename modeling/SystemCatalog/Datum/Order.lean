import SystemCatalog.Datum

/-!
# Equality and order of data cells

Numbers of all kinds, truth values among them, compare by value.  Sequences compare by their first
difference and dictionaries only for equality.  `less?` has no answer for kinds without a common
order.
-/

namespace SystemCatalog.Datum

open Number

inductive Numeric where
  | whole (n : Int)
  | real (x : Binary64)

def numeric? : Datum → Option Numeric
  | bool b => some (.whole b.toNat)
  | int n => some (.whole n)
  | float x => some (.real x)
  | _ => none

def Numeric.compare? : Numeric → Numeric → Option Ordering
  | .whole a, .whole b => some (compare a b)
  | .whole a, .real y => (y.compareInt? a).map Ordering.swap
  | .real x, .whole b => x.compareInt? b
  | .real x, .real y => x.compare? y

mutual

def same : Datum → Datum → Bool
  | null, null => true
  | text a, text b => a == b
  | list xs, list ys => sameAll xs ys
  | tuple xs, tuple ys => sameAll xs ys
  | dict xs, dict ys => xs.length == ys.length && sameEntries xs ys
  | a, b =>
    match a.numeric?, b.numeric? with
    | some x, some y => x.compare? y == some .eq
    | _, _ => false

def sameAll : List Datum → List Datum → Bool
  | [], [] => true
  | x :: xs, y :: ys => same x y && sameAll xs ys
  | _, _ => false

/-- Whether every entry of the first dictionary has an equal one in the second. -/
def sameEntries : List (Datum × Datum) → List (Datum × Datum) → Bool
  | [], _ => true
  | (k, v) :: rest, ys =>
    ys.any (fun (k', v') => same k k' && same v v') && sameEntries rest ys

end

mutual

/-- Whether the first value comes before the second, if their kinds have a common order. -/
def less? : Datum → Datum → Option Bool
  | text a, text b => some (a < b)
  | list xs, list ys => lessAll? xs ys
  | tuple xs, tuple ys => lessAll? xs ys
  | a, b =>
    match a.numeric?, b.numeric? with
    | some x, some y => some (x.compare? y == some .lt)
    | _, _ => none

/-- Whether the first sequence comes before the second: their first difference decides, and a
sequence comes before its extensions. -/
def lessAll? : List Datum → List Datum → Option Bool
  | _, [] => some false
  | [], _ :: _ => some true
  | x :: xs, y :: ys => if same x y then lessAll? xs ys else less? x y

end

/-- Whether the value may be a key: no list or dictionary in it. -/
def isKey : Datum → Bool
  | list _ => false
  | dict _ => false
  | tuple items => allKeys items
  | _ => true
where
  allKeys : List Datum → Bool
    | [] => true
    | d :: rest => isKey d && allKeys rest

/-- The dictionary with the key bound to the value: a key that is there keeps its place. -/
def insert (entries : List (Datum × Datum)) (key value : Datum) : List (Datum × Datum) :=
  if entries.any fun e => same e.1 key then
    entries.map fun e => if same e.1 key then (e.1, value) else e
  else entries ++ [(key, value)]

/-- The dictionary of the entries, of which a repeated key keeps its first place and its last
value. -/
def ofEntries (entries : List (Datum × Datum)) : Datum :=
  dict (entries.foldl (fun d e => insert d e.1 e.2) [])

end SystemCatalog.Datum
