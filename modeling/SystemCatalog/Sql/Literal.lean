import SystemCatalog.Datum.Order
import SystemCatalog.Fault

/-!
# String literals

A literal stands between apostrophes, and an apostrophe inside it is written twice.  A server that
reads backslashes as escapes gets literals with the letter `E` in front and every backslash
doubled.
-/

namespace SystemCatalog.Sql

/-- How a server reads the backslash in a string literal. -/
inductive Quoting where
  | standard
  | escaping
  deriving DecidableEq, Repr, Inhabited

namespace Quoting

def ofConforming (conforming : Bool) : Quoting := if conforming then standard else escaping

def conforming : Quoting → Bool
  | standard => true
  | escaping => false

def escapeChar (q : Quoting) (c : Char) : List Char :=
  if c = '\'' then ['\'', '\'']
  else if c = '\\' ∧ q = escaping then ['\\', '\\']
  else [c]

def escapeChars (q : Quoting) (s : List Char) : List Char := s.flatMap q.escapeChar

/-- The text as it is written inside a literal; no literal holds the zero character. -/
def escape (q : Quoting) (s : String) : Except Fault String :=
  if s.toList.contains '\x00' then .error .zeroByte
  else .ok (String.ofList (q.escapeChars s.toList))

def mark : Quoting → String
  | standard => ""
  | escaping => "E"

def literal (q : Quoting) (s : String) : Except Fault String := do
  return q.mark ++ "'" ++ (← q.escape s) ++ "'"

/-- Why a value that is no text cannot be escaped: a container is first searched for a zero
character, and then lacks the operations of texts. -/
def refusal : Datum → Fault
  | .list items | .tuple items =>
    if items.any (Datum.same (.text "\x00")) then .zeroByte else .noSuchOperation
  | .dict entries =>
    if entries.any fun e => Datum.same (.text "\x00") e.1 then .zeroByte else .noSuchOperation
  | _ => .wrongKind

def escapeValue (q : Quoting) : Datum → Except Fault String
  | .text s => q.escape s
  | d => .error (refusal d)

def literalValue (q : Quoting) : Datum → Except Fault String
  | .text s => q.literal s
  | d => .error (refusal d)

end Quoting

end SystemCatalog.Sql
