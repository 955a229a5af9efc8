import SystemCatalog.Fault

/-!
# Environment variables

A variable has a name and, while it is set, a text.  The system ends both at a zero character and
the name at an equals sign, so that none of these can be part of what is set.
-/

namespace SystemCatalog.Connection

/-- An environment variable; one that is not set has no value. -/
structure Variable where
  name : String
  value : Option String := none

namespace Variable

def check (v : Variable) : Except Fault Unit :=
  let zero : Char := '\x00'
  match v.value with
  | none => .ok ()
  | some value =>
    if v.name.contains zero || value.contains zero then .error .zeroInVariable
    else if v.name.contains '=' then .error .badVariableName
    else .ok ()

def filled? (v : Variable) : Option String := v.value.filter (· != "")

end Variable

end SystemCatalog.Connection
