import SystemCatalog.Datum.Order
import SystemCatalog.Fault

/-!
# Engine versions

A version has three parts, compared from the left.  The parts of a version that is read from text
or from a handshake are integers; a version that a caller gives part by part may hold any values,
and comparing values without a common order fails.
-/

namespace SystemCatalog

structure Version where
  major : Datum
  minor : Datum := .int 0
  patch : Datum := .int 0
  deriving Inhabited

namespace Version

def ofInts (major minor patch : Int) : Version := ⟨.int major, .int minor, .int patch⟩

def parts (v : Version) : List Datum := [v.major, v.minor, v.patch]

def text (v : Version) : String := v.major.plain ++ "." ++ v.minor.plain ++ "." ++ v.patch.plain

def same (v w : Version) : Bool := Datum.sameAll v.parts w.parts

def before (v w : Version) : Except Fault Bool :=
  match Datum.lessAll? v.parts w.parts with
  | some less => .ok less
  | none => .error .wrongKind

def after (v w : Version) : Except Fault Bool := w.before v

def atLeast (v w : Version) : Except Fault Bool :=
  if v.same w then .ok true else w.before v

/-- The version given by its parts, of which the second and third may be left out. -/
def ofParts : List Datum → Except Fault Version
  | [major] => .ok { major }
  | [major, minor] => .ok { major, minor }
  | [major, minor, patch] => .ok ⟨major, minor, patch⟩
  | _ => .error .wrongKind

/-- The version in a server's handshake number: two digits per part, or the major part and four
digits from 100000 on. -/
def ofHandshake (n : Int) : Version :=
  if 100000 ≤ n then ofInts (n / 10000) (n % 10000) 0
  else ofInts (n / 10000) (n / 100 % 100) (n % 100)

end Version

end SystemCatalog
