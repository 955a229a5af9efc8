import SystemCatalog.Number.Numeral
import SystemCatalog.Version

/-!
# Reading versions

A version starts with blanks, a letter `v` that may be missing and up to three runs of digits with
points between them.  What follows is ignored, and missing parts are zero.
-/

namespace SystemCatalog.Version

open Number Text

/-- The run of digits after a point at the front of the text, and what follows it; without such a
run, nothing and the whole text. -/
def pointRun : List Char → List Char × List Char
  | '.' :: rest =>
    match rest.takeWhile isDigit with
    | [] => ([], '.' :: rest)
    | run => (run, rest.dropWhile isDigit)
  | s => ([], s)

def dropLetter : List Char → List Char
  | 'v' :: rest => rest
  | s => s

/-- The runs of digits of the three parts, if the text starts as a version does. -/
def runs? (s : List Char) : Option (List Char × List Char × List Char) :=
  let body := dropLetter (trimLeft s)
  match body.takeWhile isDigit with
  | [] => none
  | major =>
    let (minor, rest) := pointRun (body.dropWhile isDigit)
    some (major, minor, (pointRun rest).1)

def part (run : List Char) : Except Fault Datum :=
  match evaluate run with
  | .ok n => .ok (.int n)
  | .error (.tooLong digits) => .error (.longNumeral digits)
  | .error .malformed => .error (.malformedNumeral (String.ofList run))

def ofText (s : String) : Except Fault Version :=
  match runs? s.toList with
  | none => .error (.unreadableVersion (.text s))
  | some (major, minor, patch) => do
    return ⟨← part major, ← part minor, ← part patch⟩

/-- The version in a value that should be text: a value that counts as false is unreadable, any
other value that is no text has the wrong kind. -/
def ofDatum : Datum → Except Fault Version
  | .text s => ofText s
  | d => if d.truthy then .error .wrongKind else .error (.unreadableVersion d)

inductive Given where
  | version (v : Version)
  | value (d : Datum)

/-- The version that a caller gives: itself, as text or as a tuple of parts. -/
def Given.resolve : Given → Except Fault Version
  | version v => .ok v
  | value (.text s) => ofText s
  | value (.tuple parts) => ofParts parts
  | value d => .error (.notAVersion d)

end SystemCatalog.Version
