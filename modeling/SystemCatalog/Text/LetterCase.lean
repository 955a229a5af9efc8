import SystemCatalog.Text.Interval
import SystemCatalog.Text.LetterCase.Table

/-!
# Small and capital letters

`lower` and `upper` follow the case mappings of the Unicode standard.  The capital sigma has two
small forms: the final one stands where a cased letter comes before it and none after it, with
case-ignorable characters skipped on both sides.
-/

namespace SystemCatalog.Text

/-- The image of a character under a case mapping, given by its runs and its longer images. -/
def mapCase (runs : List CaseRun) (expansions : List (Nat × List Nat)) (c : Char) : List Char :=
  match runs.find? (·.covers c.toNat) with
  | some r => [Char.ofNat (c.toNat + r.offset).toNat]
  | none =>
    match expansions.find? (·.1 == c.toNat) with
    | some (_, image) => image.map Char.ofNat
    | none => [c]

def isCased (c : Char) : Bool := covers casedIntervals c

/-- Whether the character is skipped when the letters beside a sigma are looked for. -/
def isCaseIgnorable (c : Char) : Bool := covers caseIgnorableIntervals c

def startsCased (s : List Char) : Bool :=
  match s.dropWhile isCaseIgnorable with
  | [] => false
  | c :: _ => isCased c

/-- The small letters of `s`, where `cased` tells whether the last character before `s` that is
not skipped has case. -/
def lowerAfter (cased : Bool) : List Char → List Char
  | [] => []
  | c :: rest =>
    let cased' := if isCaseIgnorable c then cased else isCased c
    if c = 'Σ' then
      (if cased && !startsCased rest then 'ς' else 'σ') :: lowerAfter cased' rest
    else
      mapCase lowerRuns lowerExpansions c ++ lowerAfter cased' rest

def lower (s : List Char) : List Char := lowerAfter false s

def upper (s : List Char) : List Char := s.flatMap (mapCase upperRuns upperExpansions)

end SystemCatalog.Text
