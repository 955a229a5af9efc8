import SystemCatalog.Connection.Variable
import SystemCatalog.Datum.Order
import SystemCatalog.Datum.Whole
import SystemCatalog.Journal.Record

/-!
# Slow statements

The time from which a statement counts as slow is given by the caller, by an environment variable or
by a default.  An unusable variable is reported and ignored.
-/

namespace SystemCatalog.Connection

open Journal (Record Level loggerName)

def thresholdVariable : String := "CRATEMETA_SLOW_QUERY_MS"

def ignoring (why value : String) : Record where
  logger := loggerName "utils.performance"
  level := Level.warning
  message := "Ignoring " ++ why ++ " " ++ thresholdVariable ++ " value " ++ Text.quoted value

/-- The threshold in the variable's value, if that can be used, and the record if it cannot. -/
def variableThreshold (value : String) : Option Int × List Record :=
  if (Text.trim value.toList).isEmpty then (none, [])
  else
    match (Datum.text value).whole with
    | .error _ => (none, [ignoring "invalid" value])
    | .ok n => if n < 0 then (none, [ignoring "negative" value]) else (some n, [])

def givenThreshold (given : Datum) : Except Fault Datum :=
  match Datum.less? given (.int 0) with
  | none => .error .wrongKind
  | some true => .error .negativeThreshold
  | some false => .ok given

/-- The threshold by the caller's, which is null for none, the environment variable's and the
default one, and the records that are written on the way. -/
def threshold (fallback given : Datum) (setting : Option String) :
    Except Fault Datum × List Record :=
  if given.isNull then
    match setting.map variableThreshold with
    | some (some n, records) => (.ok (.int n), records)
    | some (none, records) => (.ok fallback, records)
    | none => (.ok fallback, [])
  else (givenThreshold given, [])

def defaultThreshold : Datum := .int 100

end SystemCatalog.Connection
