import SystemCatalog.Sql.Pattern

/-!
# Operands of fragment operations

Where a fragment is expected, callers may hand in a single part, plain text or nothing.  The
operations accept such an operand as long as its parts are not needed.
-/

namespace SystemCatalog.Sql

inductive Operand where
  | absent
  | text (s : String)
  | part (p : Part)
  | fragment (f : Fragment)

namespace Operand

/-- Whether the operand counts as something: absent ones, empty text and empty fragments do not. -/
def isPresent : Operand → Bool
  | absent => false
  | text s => s != ""
  | part _ => true
  | fragment f => !f.isEmpty

def fragment? : Operand → Except Fault Fragment
  | fragment f => .ok f
  | _ => .error .noSuchOperation

/-- The sum of two operands: a fragment takes parts and fragments, a text takes texts. -/
def add : Operand → Operand → Except Fault Operand
  | fragment f, fragment g => .ok (fragment (f ++ g))
  | fragment f, part p => .ok (fragment ⟨f.parts ++ [p]⟩)
  | text s, text t => .ok (text (s ++ t))
  | _, _ => .error .wrongKind

def join (separator : Fragment) (operands : List Operand) : Except Fault Fragment := do
  return separator.join (← (operands.filter isPresent).mapM fragment?)

end Operand

inductive Expression where
  | operand (o : Operand)
  | matching (column : String) (pattern : Datum)
  | equality (column : String) (value : Datum)
  | conjunction (terms : List Expression)
  | sum (terms : List Expression)
  | join (separator : Expression) (terms : List Expression)

namespace Expression

mutual

def evaluate : Expression → Except Fault Operand
  | operand o => .ok o
  | matching column pattern => .ok (.fragment (Sql.matching column pattern))
  | equality column value => .ok (.fragment (Sql.equality column value))
  | conjunction terms => do
    return .fragment (← Operand.join (.trusted " AND ") (← evaluateAll terms))
  | sum [] => .error .outOfRange
  | sum (first :: rest) => do addAll (← evaluate first) rest
  | join separator terms => do
    let separator ← (← evaluate separator).fragment?
    return .fragment (← Operand.join separator (← evaluateAll terms))

def evaluateAll : List Expression → Except Fault (List Operand)
  | [] => .ok []
  | e :: rest => do return (← evaluate e) :: (← evaluateAll rest)

/-- The operand with expressions added to it from the left, each as soon as it is evaluated. -/
def addAll (total : Operand) : List Expression → Except Fault Operand
  | [] => .ok total
  | e :: rest => do addAll (← total.add (← evaluate e)) rest

end

end Expression

end SystemCatalog.Sql
