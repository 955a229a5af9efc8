import SystemCatalog.Address
import SystemCatalog.Fault

/-!
# Addresses part by part

A caller may give the parts of an address one by one, and may give values of any kind.  Parts that
count as false are missing, a port or a schema of any kind is written as text, and the user, the
password and the host have to be texts where they are written out.
-/

namespace SystemCatalog.Address

structure Fields where
  scheme : Datum
  username : Datum
  password : Datum
  host : Datum
  port : Datum
  schema : Datum
  query : Datum := .dict []

namespace Fields

def orElse (d fallback : Datum) : Datum := if d.truthy then d else fallback

def effectiveUser (f : Fields) : Datum := orElse f.username (.text defaultUser)

def effectivePort (f : Fields) : Datum := orElse f.port (.int defaultPort)

def effectiveSchema (f : Fields) : Datum := orElse f.schema (.text defaultSchema)

def text : Datum → Except Fault String
  | .text s => .ok s
  | _ => .error .wrongKind

def text? (d : Datum) : Except Fault (Option String) :=
  if d.truthy then some <$> text d else .ok none

def plain? (d : Datum) : Option (List Char) := if d.truthy then some d.plain.toList else none

def writtenUser (username password : Datum) (writePassword : Datum → Except Fault (List Char)) :
    Except Fault (Option (List Char × Option (List Char))) := do
  match ← text? username with
  | none => return none
  | some user =>
    let password ← if password.truthy then some <$> writePassword password else pure none
    return some (quote user, password)

def written (f : Fields) (writePassword : Datum → Except Fault (List Char))
    (query : List (Datum × Datum)) : Except Fault Written := do
  let user ← writtenUser f.username f.password writePassword
  let host ← text? f.host
  return {
    scheme := f.scheme.plain.toList
    user
    host := (host.getD "").toList
    port := plain? f.port
    schema := plain? f.schema
    query := query.map fun (name, value) => (name.plain, value.plain) }

def queryEntries (f : Fields) : Except Fault (List (Datum × Datum)) :=
  match f.query with
  | .dict entries => .ok entries
  | _ => .error .noSuchOperation

def redacted (f : Fields) : Except Fault String := do
  let query ← f.queryEntries
  return (← f.written (fun _ => .ok Redaction.mask.toList) (Redaction.options query)).text

def completed (f : Fields) : Fields :=
  { f with
    scheme := .text driverScheme
    username := f.effectiveUser
    port := f.effectivePort
    schema := f.effectiveSchema }

def conninfo (f : Fields) : Except Fault String := do
  return (← f.completed.written (fun password => quote <$> text password) []).text

end Fields

def optionData (query : List (String × String)) : List (Datum × Datum) :=
  query.map fun (name, value) => (.text name, .text value)

def fields (a : Address) : Fields where
  scheme := .text a.scheme
  username := .ofOption a.username
  password := .ofOption a.password
  host := .ofOption a.host
  port := a.port.elim .null .int
  schema := .ofOption a.schema
  query := .dict (optionData a.query)

end SystemCatalog.Address
