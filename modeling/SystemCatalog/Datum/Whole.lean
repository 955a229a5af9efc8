import SystemCatalog.Fault
import SystemCatalog.Number.Numeral

/-!
# Integers in data cells

A number yields its integer part, a text the integer it is a numeral of.
-/

namespace SystemCatalog.Datum

open Number

def whole : Datum → Except Fault Int
  | int n => .ok n
  | bool b => .ok b.toNat
  | float .nan => .error .wholeOfNan
  | float (.infinite _) => .error .wholeOfInfinity
  | float x => .ok (x.truncate?.getD 0)
  | text s =>
    match readInteger s.toList with
    | .ok n => .ok n
    | .error .malformed => .error (.malformedNumeral s)
    | .error (.tooLong digits) => .error (.longNumeral digits)
  | _ => .error .wrongKind

end SystemCatalog.Datum
