import SystemCatalog.Connection.Config

/-!
# Shares of options

The options of an address are shared out: two are settings, four say how to encrypt, and the others
are for the driver.  What the driver gets in the end also depends on what the caller sets.
-/

namespace SystemCatalog.Connection

open Text

namespace Options

/-- No option is there twice. -/
def Distinct (o : Options) : Prop := o.Pairwise fun e d => Datum.same e.1 d.1 = false

/-- The options, each with the value that others give it, and behind them what else the others
give. -/
def override (o others : Options) : Options :=
  o.map (fun e => (e.1, ((others.find? fun d => Datum.same e.1 d.1).map (·.2)).getD e.2)) ++
    others.filter fun d => !o.any fun e => Datum.same e.1 d.1

end Options

namespace Config

def wordOf (value : String) : String := String.ofList (lower (trim value.toList))

/-- An option of the query has a value that it cannot have. -/
inductive Misread (query : List (String × String)) : Prop
  | autocommit (value : String) (given : query.lookup "autocommit" = some value)
      (other : wordOf value ∉ ["1", "true", "yes", "on", "0", "false", "no", "off"])
  | timeout (value : String) (given : query.lookup "timeout" = some value)
      (other : Number.Binary64.read? value.toList = none)
  | wait (value : String) (given : query.lookup "connect_timeout" = some value)
      (other : ∀ n, Number.readInteger value.toList ≠ .ok n)

/-- The value of an option for the driver: an integer for the time to wait, and otherwise the text
of the option. -/
def driverValue (name value : String) : Datum :=
  if name = "connect_timeout" then
    match Number.readInteger value.toList with
    | .ok n => .int n
    | .error _ => .text value
  else .text value

def driverShare (query : List (String × String)) : Options :=
  (query.filter fun o =>
    !(["autocommit", "timeout", "sslmode", "sslrootcert", "sslcert", "sslkey"].contains o.1)).map
    fun o => (.text o.1, driverValue o.1 o.2)

/-- The options in the settings: the driver's share, as the caller's options change it. -/
def heldOptions (address : Address) (others : Options) : Options :=
  (driverShare address.query).override others

/-- The settings hold the shares of an address's options, but for what the caller sets. -/
structure Shares (address : Address) (given : Overrides) (others : Options) (c : Config) :
    Prop where
  autocommit_given : ∀ d, given.autocommit = some d →
    c.autocommit = if d.isNull then .bool true else d
  autocommit_read : given.autocommit = none →
    ∀ value, address.query.lookup "autocommit" = some value →
    c.autocommit = .bool (["1", "true", "yes", "on"].contains (wordOf value))
  autocommit_absent : given.autocommit = none → address.query.lookup "autocommit" = none →
    c.autocommit = .bool true
  timeout_given : ∀ d, given.timeout = some d → c.timeout = d
  timeout_read : given.timeout = none → ∀ value, address.query.lookup "timeout" = some value →
    ∃ x, Number.Binary64.read? value.toList = some x ∧ c.timeout = .float x
  timeout_absent : given.timeout = none → address.query.lookup "timeout" = none → c.timeout = .null
  tls_given : ∀ tls, given.tls = some tls → c.tls = tls
  tls_read : given.tls = none → ∀ tls, c.tls = some tls →
    tls.values = Tls.optionNames.map fun name => .ofOption (address.query.lookup name)
  tls_absent : given.tls = none →
    (c.tls = none ↔ ∀ name ∈ Tls.optionNames, address.query.lookup name = none)
  options : c.options = (heldOptions address others).toDatum
  target : c.target = .address address

/-- A time to wait that is not given, or is a finite number. -/
def isFinite : Datum → Bool
  | .null | .bool _ | .int _ | .float (.finite ..) => true
  | _ => false

def encryption (c : Config) (o : Options) : Options :=
  (((c.tls.map Tls.options).getD []).filter fun e => !o.has e.1).map fun e => (.text e.1, e.2)

/-- The time to wait in whole seconds, unless it is given already or there is none. -/
def waiting (c : Config) (o : Options) : Options :=
  if c.timeout.truthy && !o.has waitOption then
    match c.timeout.whole with
    | .ok n => [(.text waitOption, .int n)]
    | .error _ => []
  else []

/-- What the driver gets when the settings hold the options `o`. -/
def passed (c : Config) (o : Options) : Options := o ++ c.encryption o ++ c.waiting o

end Config

end SystemCatalog.Connection
