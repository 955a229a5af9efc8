import SystemCatalog.Address.Written
import SystemCatalog.Redaction

/-!
# Connection addresses

An address says where a connection leads and who opens it.  It is written for the driver with the
defaults filled in and for logs with its secrets masked.
-/

namespace SystemCatalog

structure Address where
  scheme : String
  username : Option String := none
  password : Option String := none
  host : Option String := none
  port : Option Int := none
  schema : Option String := none
  query : List (String × String) := []
  deriving DecidableEq, Inhabited

namespace Address

def filled (s : Option String) : Option String := s.filter (· != "")

def defaultUser : String := "crate"

def defaultPort : Int := 5432

def defaultSchema : String := "doc"

def effectiveUser (a : Address) : String := (filled a.username).getD defaultUser

def effectivePort (a : Address) : Int := (a.port.filter (· != 0)).getD defaultPort

def effectiveSchema (a : Address) : String := (filled a.schema).getD defaultSchema

def written (a : Address) (writePassword : String → List Char) : Written where
  scheme := a.scheme.toList
  user := (filled a.username).map fun user =>
    (quote user, (filled a.password).map writePassword)
  host := (a.host.getD "").toList
  port := (a.port.filter (· != 0)).map fun n => (toString n).toList
  schema := (filled a.schema).map String.toList
  query := a.query

def render (a : Address) (writePassword : String → List Char) : String :=
  (a.written writePassword).text

def driverScheme : String := "postgresql"

/-- The address with the defaults filled in and without options, which the driver gets by
themselves. -/
def completed (a : Address) : Address :=
  { a with
    scheme := driverScheme
    username := some a.effectiveUser
    port := some a.effectivePort
    schema := some a.effectiveSchema
    query := [] }

def conninfo (a : Address) : String := a.completed.render quote

def maskedQuery (a : Address) : List (String × String) :=
  Redaction.maskEntries id Redaction.mask a.query

def redacted (a : Address) : String :=
  { a with query := a.maskedQuery }.render fun _ => Redaction.mask.toList

end Address

end SystemCatalog
