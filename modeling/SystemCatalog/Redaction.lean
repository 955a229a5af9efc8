import SystemCatalog.Datum.Shown
import SystemCatalog.Text.LetterCase

/-!
# Redaction

Secrets are kept out of logs.  A text is sensitive if it contains one of a few words in any letter
case; sensitive values are masked, and so is every value under a sensitive key.
-/

namespace SystemCatalog.Redaction

def mask : String := "***"

def sensitiveWords : List String :=
  ["password", "passwd", "secret", "token", "apikey", "api_key", "private_key", "sslkey",
   "ssl_key", "bearer", "authorization"]

def occurs (word : List Char) : List Char → Bool
  | [] => word.isEmpty
  | c :: rest => word.isPrefixOf (c :: rest) || occurs word rest

def isSensitive (s : String) : Bool :=
  let lowered := Text.lower s.toList
  sensitiveWords.any fun word => occurs word.toList lowered

/-- The entries with the masking value under every key whose name is sensitive. -/
def maskEntries {κ β : Type} (name : κ → String) (masking : β) (entries : List (κ × β)) :
    List (κ × β) :=
  entries.map fun (key, value) => (key, if isSensitive (name key) then masking else value)

def options (entries : List (Datum × Datum)) : List (Datum × Datum) :=
  maskEntries Datum.plain (.text mask) entries

mutual

def value : Datum → Datum
  | .text s => .text (if isSensitive s then mask else s)
  | .list items => .list (values items)
  | .tuple items => .tuple (values items)
  | .dict entries => .dict (options (entryValues entries))
  | d => d

def values : List Datum → List Datum
  | [] => []
  | d :: rest => value d :: values rest

def entryValues : List (Datum × Datum) → List (Datum × Datum)
  | [] => []
  | (k, v) :: rest => (k, value v) :: entryValues rest

end

/-- The parameters of a statement without secrets; null stands for no parameters, and a value that
cannot be iterated over has the wrong kind. -/
def parameters? (d : Datum) : Option Datum :=
  if d.isNull then some .null else d.elements?.map fun items => .list (values items)

end SystemCatalog.Redaction
