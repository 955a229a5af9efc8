import SystemCatalog.Address.Reader
import SystemCatalog.Connection.Variable
import SystemCatalog.Datum.Order
import SystemCatalog.Datum.Whole
import SystemCatalog.Number.Binary64.Reader

/-!
# Connection settings

Settings are read from an address: some of its options say how to connect, and the others are passed
on to the driver.  What a caller sets counts before what the address says.
-/

namespace SystemCatalog.Connection

open Text

abbrev Options := List (Datum × Datum)

namespace Options

def has (o : Options) (name : String) : Bool := o.any fun e => Datum.same e.1 (.text name)

def addNew (o : Options) (name : String) (value : Datum) : Options :=
  if o.has name then o else o ++ [(.text name, value)]

def merge (o others : Options) : Options :=
  others.foldl (fun o e => Datum.insert o e.1 e.2) o

/-- The option that an element of a sequence stands for: two values, of which the first may be a
key. -/
def ofElement (element : Datum) (position : Nat) : Except Fault (Datum × Datum) :=
  match element.elements? with
  | some [name, value] => if name.isKey then .ok (name, value) else .error .wrongKind
  | some items => .error (.oddOption position items.length)
  | none => .error .wrongKind

/-- The options that a caller gives, as a dictionary or as a sequence of pairs; a value that counts
as false gives none. -/
def ofDatum (d : Datum) : Except Fault Options :=
  match d with
  | .dict entries => .ok entries
  | _ =>
    if !d.truthy then .ok []
    else
      match d.elements? with
      | none => .error .wrongKind
      | some elements => do
        return merge [] (← elements.zipIdx.mapM fun (element, i) => ofElement element i)

/-- The options as a value: a dictionary, or null if there are none. -/
def toDatum (o : Options) : Datum := if o.isEmpty then .null else .dict o

end Options

/-- How a connection is encrypted: texts, or null where nothing is said. -/
structure Tls where
  mode : Datum := .null
  rootCertificate : Datum := .null
  certificate : Datum := .null
  key : Datum := .null
  deriving Inhabited

namespace Tls

def values (t : Tls) : List Datum := [t.mode, t.rootCertificate, t.certificate, t.key]

def optionNames : List String := ["sslmode", "sslrootcert", "sslcert", "sslkey"]

def options (t : Tls) : List (String × Datum) :=
  (optionNames.zip t.values).filter fun o => o.2.truthy

def setField (t : Tls) (name : String) (value : Datum) : Except Fault Tls :=
  match name with
  | "mode" => .ok { t with mode := value }
  | "rootcert" => .ok { t with rootCertificate := value }
  | "cert" => .ok { t with certificate := value }
  | "key" => .ok { t with key := value }
  | _ => .error .wrongKind

def ofFields (fields : List (String × Datum)) : Except Fault Tls :=
  fields.foldlM (fun t field => t.setField field.1 field.2) {}

def ofQuery? (query : List (String × String)) : Option Tls :=
  if optionNames.any fun name => (query.lookup name).isSome then
    let value (name : String) : Datum := .ofOption (query.lookup name)
    some {
      mode := value "sslmode"
      rootCertificate := value "sslrootcert"
      certificate := value "sslcert"
      key := value "sslkey" }
  else none

end Tls

/-- What a caller sets besides the address; settings that are not given are `none`. -/
structure Overrides where
  autocommit : Option Datum := none
  timeout : Option Datum := none
  options : Option Datum := none
  tls : Option (Option Tls) := none
  source : Option Datum := none
  /-- What is given in place of an address that has been read. -/
  address : Option Datum := none
  names : List String := []

namespace Overrides

def settingNames : List String := ["autocommit", "timeout", "options", "ssl", "source"]

def addressName : String := "dsn"

def variableName : String := "env_var"

def reservedName : String := "cls"

def refuse (given : Overrides) (names : List String) : Except Fault Unit :=
  if names.any given.names.contains then .error .wrongKind else .ok ()

def allow (given : Overrides) (names : List String) : Except Fault Unit :=
  if given.names.all names.contains then .ok () else .error .wrongKind

end Overrides

inductive Target where
  | unknown
  | address (a : Address)
  | other (d : Datum)
  deriving Inhabited

namespace Target

/-- The target that a caller gives; null gives none. -/
def ofDatum (d : Datum) : Target := if d.isNull then unknown else other d

def isKnown : Target → Bool
  | unknown => false
  | _ => true

/-- The address as it is written, or the fallback if there is none; a value that is no address
cannot be written, unless it counts as false. -/
def write (t : Target) (writeAddress : Address → String) (fallback : String) :
    Except Fault String :=
  match t with
  | unknown => .ok fallback
  | address a => .ok (writeAddress a)
  | other d => if d.truthy then .error .noSuchOperation else .ok fallback

end Target

structure Config where
  url : String
  autocommit : Datum := .bool true
  timeout : Datum := .null
  options : Datum := .null
  tls : Option Tls := none
  target : Target := .unknown
  source : Datum := .null
  deriving Inhabited

namespace Config

def yesWords : List String := ["1", "true", "yes", "on"]

def noWords : List String := ["0", "false", "no", "off"]

def readWord (name value : String) : Except Fault Bool :=
  let word := String.ofList (lower (trim value.toList))
  if yesWords.contains word then .ok true
  else if noWords.contains word then .ok false
  else .error (.badWord name value)

def readReal (name value : String) : Except Fault Datum :=
  match Number.Binary64.read? value.toList with
  | some x => .ok (.float x)
  | none => .error (.badNumber "float" name value)

def readWhole (name value : String) : Except Fault Datum :=
  match (Datum.text value).whole with
  | .ok n => .ok (.int n)
  | .error _ => .error (.badNumber "int" name value)

def ownOptions : List String := ["autocommit", "timeout"] ++ Tls.optionNames

/-- The option of the driver with the time to wait for a connection, an integer. -/
def waitOption : String := "connect_timeout"

def driverOption (option : String × String) : Except Fault (Datum × Datum) := do
  let value ← if option.1 == waitOption then readWhole option.1 option.2
    else pure (.text option.2)
  return (.text option.1, value)

def readOption {α : Type} (query : List (String × String)) (name : String)
    (read : String → String → Except Fault α) : Except Fault (Option α) :=
  match query.lookup name with
  | some value => some <$> read name value
  | none => .ok none

def orElse (d fallback : Datum) : Datum := if d.isNull then fallback else d

def ofAddress (url : String) (address : Address) (given : Overrides) : Except Fault Config := do
  let query := address.query
  let autocommit ← readOption query "autocommit" readWord
  let timeout ← readOption query "timeout" readReal
  let rest := query.filter fun option => !ownOptions.contains option.1
  let options ← rest.mapM driverOption
  let options := Options.merge options (← Options.ofDatum (given.options.getD .null))
  given.allow Overrides.settingNames
  return {
    url
    target := .address address
    autocommit := orElse (given.autocommit.getD ((autocommit.map .bool).getD .null)) (.bool true)
    timeout := given.timeout.getD (timeout.getD .null)
    options := options.toDatum
    tls := given.tls.getD (Tls.ofQuery? query)
    source := given.source.getD .null }

/-- The settings for the text of an address, which is not given a second time. -/
def ofText (text : String) (given : Overrides) : Except Fault Config := do
  given.refuse [Overrides.reservedName, Overrides.addressName]
  match Address.ofText text with
  | .ok address => ofAddress text address given
  | .error f => .error (.unreadableAddress f)

/-- The settings for the address in an environment variable, which is named as their source. -/
def ofEnvironment (v : Variable) (given : Overrides) : Except Fault Config := do
  given.refuse [Overrides.reservedName, Overrides.variableName]
  match v.filled? with
  | none => .error (.environmentUnset v.name)
  | some text =>
    given.refuse ["source"]
    ofText text { given with source := some (.text v.name) }

def ofUrl (url : String) (given : Overrides) : Except Fault Config := do
  given.allow (Overrides.addressName :: Overrides.settingNames)
  return {
    url
    autocommit := given.autocommit.getD (.bool true)
    timeout := given.timeout.getD .null
    options := given.options.getD .null
    tls := given.tls.getD none
    target := .ofDatum (given.address.getD .null)
    source := given.source.getD .null }

def conninfo (c : Config) : Except Fault String := c.target.write Address.conninfo c.url

def redacted (c : Config) : Except Fault String := c.target.write Address.redacted c.url

def label (c : Config) : Except Fault String := do
  let redacted ← c.redacted
  return if c.source.truthy then c.source.plain ++ " (" ++ redacted ++ ")" else redacted

/-- The options that the driver gets: the caller's and the address's, those for encryption unless
they are given already, and the time to wait for a connection unless it is given already. -/
def driverOptions (c : Config) : Except Fault Options := do
  let options := ((c.tls.map Tls.options).getD []).foldl (fun o e => o.addNew e.1 e.2)
    (← Options.ofDatum c.options)
  if c.timeout.truthy && !options.has waitOption then
    return options.addNew waitOption (.int (← c.timeout.whole))
  else return options

end Config

inductive Source where
  | text (address : String)
  | environment (v : Variable)
  | url (url : String)

/-- A request for settings: where they are read from and what the caller sets, of which the fields
for encryption are checked before anything is read. -/
structure Request where
  source : Source
  given : Overrides := {}
  tls : Option (Option (List (String × Datum))) := none

def Request.tlsSettings (r : Request) : Except Fault (Option (Option Tls)) :=
  match r.tls with
  | none => .ok none
  | some none => .ok (some none)
  | some (some fields) => do return some (some (← Tls.ofFields fields))

def Request.config (r : Request) : Except Fault Config := do
  let given := { r.given with tls := ← r.tlsSettings }
  match r.source with
  | .text address => Config.ofText address given
  | .environment v => do
    v.check
    Config.ofEnvironment v given
  | .url url => Config.ofUrl url given

end SystemCatalog.Connection
