import SystemCatalog.Datum.Shown
import SystemCatalog.Session.Constant

/-!
# Faults

Every way in which a request can fail, by its cause.  `Fault.family` groups the causes by how
callers handle them, and `Fault.message` holds all wording.
-/

namespace SystemCatalog

open Session (Constant)

inductive Fault where
  -- versions
  | unreadableVersion (given : Datum)
  | notAVersion (given : Datum)
  | emptyBrackets (table : String)
  | repeatedThreshold (table : String)
  | belowBrackets (version table : String)
  -- rows that the session reads
  | noVersionRow
  | nullVersion
  | badVersion (given : Datum)
  | missingConstant (constant : Constant)
  | badConstant (constant : Constant) (given : Datum)
  -- numbers
  | malformedNumeral (given : String)
  | longNumeral (digits : Nat)
  | wholeOfNan
  | wholeOfInfinity
  -- statements and rows
  | zeroByte
  | tableRequired
  | unknownMember (given : Datum) (collection : String)
  | unnamedColumns
  | missingKey (key : Datum)
  | outOfRange
  | wrongKind
  | noSuchOperation
  -- privileges
  | malformedEntry (token : String)
  -- connection addresses
  | unsupportedScheme (scheme : String)
  | unbalancedBrackets
  | bracketedIPv4
  | badFutureAddress
  | notAnAddress (host : String)
  | unsafeAuthority (authority : String)
  | badPort (port : String)
  | portOutOfRange
  -- configuration
  | unreadableAddress (cause : Fault)
  | badWord (option value : String)
  | badNumber (kind option value : String)
  | environmentUnset (name : String)
  | zeroInVariable
  | badVariableName
  /-- An option in a sequence that is no pair. -/
  | oddOption (position size : Nat)
  | driverMissing
  | negativeThreshold
  -- connections
  | connectFailed
  | notConnected
  | parameterCount (expected received : Nat)
  /-- The driver reports a failure of the statement. -/
  | statementFailed (cause : String)
  /-- The connection itself reports a failure of the statement. -/
  | executionFailed (message : String)
  /-- The statement fails with an error that is not the driver's own. -/
  | refusedStatement (message : String)
  | closeFailed
  -- the journal
  | unknownLevel (name : String)
  | raised (message : String)
  deriving Inhabited

/-- How callers tell faults apart. -/
inductive Fault.Family where
  | unavailable
  | malformedEntry
  | configuration
  | connection
  | execution
  | value
  | kind
  | operation
  | key
  | index
  | overflow
  | surroundings
  deriving DecidableEq, Repr

namespace Fault

def family : Fault → Family
  | belowBrackets .. | noVersionRow | nullVersion | badVersion _ | missingConstant _
  | badConstant .. => .unavailable
  | malformedEntry _ => .malformedEntry
  | unreadableAddress _ | badWord .. | badNumber .. | environmentUnset _ | driverMissing =>
    .configuration
  | connectFailed | notConnected => .connection
  | parameterCount .. | statementFailed _ | executionFailed _ => .execution
  | notAVersion _ | wrongKind => .kind
  | noSuchOperation => .operation
  | missingKey _ => .key
  | outOfRange => .index
  | wholeOfInfinity => .overflow
  | closeFailed | raised _ => .surroundings
  | unreadableVersion _ | emptyBrackets _ | repeatedThreshold _ | malformedNumeral _
  | longNumeral _ | wholeOfNan | zeroByte | tableRequired | unknownMember .. | unnamedColumns
  | unsupportedScheme _ | unbalancedBrackets | bracketedIPv4 | badFutureAddress | notAnAddress _
  | unsafeAuthority _ | badPort _ | portOutOfRange | zeroInVariable | badVariableName | oddOption ..
  | negativeThreshold | refusedStatement _ | unknownLevel _ =>
    .value

/-- The wording of a fault; causes that have no wording of their own give the empty text. -/
def message : Fault → String
  | unreadableVersion given => "Unparsable version string: " ++ given.shown
  | notAVersion given => "Cannot interpret " ++ given.shown ++ " as an engine version"
  | emptyBrackets table => "Version dispatch " ++ Text.quoted table ++ " needs at least one row"
  | repeatedThreshold table =>
    "Version dispatch " ++ Text.quoted table ++ " has duplicate thresholds"
  | belowBrackets version table =>
    "Engine version " ++ version ++ " predates every bracket of " ++ Text.quoted table
  | noVersionRow => "Unable to fetch the engine version: sys.nodes returned no row."
  | nullVersion => "Unable to fetch the engine version: version number is NULL."
  | badVersion given => "Unable to parse engine version " ++ given.shown ++ "."
  | missingConstant constant => constant.missing
  | badConstant constant given => constant.missing ++ " (got " ++ given.shown ++ ")"
  | malformedNumeral given =>
    "invalid literal for int() with base 10: " ++
      String.ofList ((Text.quoted given).toList.take 200)
  | longNumeral digits =>
    "Exceeds the limit (4300 digits) for integer string conversion: value has " ++
      toString digits ++ " digits; use sys.set_int_max_str_digits() to increase the limit"
  | wholeOfNan => "cannot convert float NaN to integer"
  | wholeOfInfinity => "cannot convert float infinity to integer"
  | zeroByte => "Zero bytes may not occur in string literals."
  | tableRequired => "Primary key lookups need an exact table name."
  | unknownMember given collection => given.shown ++ " is not a valid " ++ collection
  | unnamedColumns => "Unable to map catalog row to column names."
  | missingKey key => key.shown
  | malformedEntry token => "ACL entry " ++ Text.quoted token ++ " is missing the '=' separator"
  | unsupportedScheme scheme =>
    "Unsupported DSN scheme " ++ Text.quoted scheme ++
      "; expected one of ('crate', 'postgres', 'postgresql')"
  | unbalancedBrackets => "Invalid IPv6 URL"
  | bracketedIPv4 => "An IPv4 address cannot be in brackets"
  | badFutureAddress => "IPvFuture address is invalid"
  | notAnAddress host => Text.quoted host ++ " does not appear to be an IPv4 or IPv6 address"
  | unsafeAuthority authority =>
    "netloc '" ++ authority ++ "' contains invalid characters under NFKC normalization"
  | badPort port => "Port could not be cast to integer value as " ++ Text.quoted port
  | portOutOfRange => "Port out of range 0-65535"
  | unreadableAddress cause => cause.message
  | badWord option value =>
    "Invalid boolean value for '" ++ option ++ "': " ++ Text.quoted value
  | badNumber kind option value =>
    "Invalid " ++ kind ++ " value for '" ++ option ++ "': " ++ Text.quoted value
  | zeroInVariable => "embedded null byte"
  | badVariableName => "illegal environment variable name"
  | environmentUnset name => "Environment variable " ++ name ++ " is not set"
  | oddOption position size =>
    "dictionary update sequence element #" ++ toString position ++ " has length " ++
      toString size ++ "; 2 is required"
  | driverMissing => "psycopg is required to use CrateAdapter."
  | negativeThreshold => "slow_query_ms must be non-negative"
  | connectFailed => "Failed to connect to CrateDB."
  | notConnected => "CrateAdapter is not connected."
  | parameterCount expected received =>
    "Parameter count mismatch: expected " ++ toString expected ++ ", received " ++
      toString received ++ "."
  | statementFailed cause => "Statement failed: " ++ cause
  | executionFailed message => message
  | refusedStatement message => message
  | closeFailed => "close failed"
  | unknownLevel name => "Unknown level: " ++ Text.quoted name
  | raised message => message
  | outOfRange | wrongKind | noSuchOperation => ""

end Fault

theorem bind_eq_ok {ε β γ : Type} {x : Except ε β} {f : β → Except ε γ} {c : γ}
    (h : x >>= f = .ok c) : ∃ b, x = .ok b ∧ f b = .ok c := by
  cases x with
  | error e => simp [bind, Except.bind] at h
  | ok b => exact ⟨b, rfl, h⟩

end SystemCatalog
