import SystemCatalog.Datum.Order
import SystemCatalog.Sql.Lexeme
import SystemCatalog.Text.Digit

/-!
# Conditions

How a server reads a condition on the rows of a table and what the condition says of a row.  `AND`
binds closer than `OR`, parentheses bind closest, and a comparison with null has no known answer.
-/

namespace SystemCatalog.Sql

/-- The truth of a condition; none is unknown. -/
abbrev Truth := Option Bool

namespace Truth

def not : Truth → Truth := Option.map (!·)

def and : Truth → Truth → Truth
  | some false, _ => some false
  | _, some false => some false
  | some true, some true => some true
  | _, _ => none

def or : Truth → Truth → Truth
  | some true, _ => some true
  | _, some true => some true
  | some false, some false => some false
  | _, _ => none

def equal (a b : Datum) : Truth := if a.isNull || b.isNull then none else some (a.same b)

def among (a : Datum) (values : List Datum) : Truth :=
  values.foldr (fun b truth => or (equal a b) truth) (some false)

end Truth

inductive Term where
  | column (name : String)
  | constant (value : Datum)

inductive Condition where
  | equal (a b : Term)
  | among (a : Term) (values : List Term)
  | not (c : Condition)
  | both (a b : Condition)
  | either (a b : Condition)

def Term.value (row : String → Datum) : Term → Datum
  | column name => row name
  | constant value => value

def Condition.truth (row : String → Datum) : Condition → Truth
  | equal a b => Truth.equal (a.value row) (b.value row)
  | among a values => Truth.among (a.value row) (values.map (Term.value row))
  | not c => (c.truth row).not
  | both a b => (a.truth row).and (b.truth row)
  | either a b => (a.truth row).or (b.truth row)

/-! ### Reading conditions -/

def keywords : List String := ["AND", "IN", "NOT", "OR"]

def Lexeme.term? : Lexeme → Option Term
  | word s =>
    if keywords.contains s then none
    else if s.toList.all Text.isDigit then some (.constant (.int (Text.natOfDigits s.toList)))
    else some (.column s)
  | literal s => some (.constant (.text s))
  | sign _ => none

/-- What has been read of a condition, or of one in parentheses, before its last comparison. -/
structure Frame where
  alternative : Option Condition := none
  conjunct : Option Condition := none

def Frame.conjunction (f : Frame) (last : Condition) : Condition :=
  f.conjunct.elim last (.both · last)

def Frame.whole (f : Frame) (last : Condition) : Condition :=
  f.alternative.elim (f.conjunction last) (.either · (f.conjunction last))

/-- What a reader of conditions has read since the last `AND`, `OR` or opening parenthesis. -/
inductive Stage where
  | start
  | term (a : Term)
  | equals (a : Term)
  | negated (a : Term)
  | member (a : Term) (inside : Bool)
  | listing (a : Term) (inside : Bool) (values : List Term)
  | listed (a : Term) (inside : Bool) (values : List Term)
  | comparison (c : Condition)

structure Reader where
  outer : List Frame := []
  frame : Frame := {}
  stage : Stage := .start

/-- Whether a term is one of some values, or that it is none. -/
def membership (a : Term) (inside : Bool) (values : List Term) : Condition :=
  if inside then .among a values else .not (.among a values)

namespace Reader

def step (r : Reader) (l : Lexeme) : Option Reader :=
  match r.stage, l with
  | .start, .sign '(' => some { outer := r.frame :: r.outer }
  | .start, l => do return { r with stage := .term (← l.term?) }
  | .term a, .sign '=' => some { r with stage := .equals a }
  | .term a, .word "NOT" => some { r with stage := .negated a }
  | .term a, .word "IN" => some { r with stage := .member a true }
  | .equals a, l => do return { r with stage := .comparison (.equal a (← l.term?)) }
  | .negated a, .word "IN" => some { r with stage := .member a false }
  | .member a inside, .sign '(' => some { r with stage := .listing a inside [] }
  | .listing a inside values, l => do
    return { r with stage := .listed a inside (values ++ [← l.term?]) }
  | .listed a inside values, .sign ',' => some { r with stage := .listing a inside values }
  | .listed a inside values, .sign ')' =>
    some { r with stage := .comparison (membership a inside values) }
  | .comparison c, .word "AND" =>
    some { r with frame := ⟨r.frame.alternative, some (r.frame.conjunction c)⟩, stage := .start }
  | .comparison c, .word "OR" =>
    some { r with frame := ⟨some (r.frame.whole c), none⟩, stage := .start }
  | .comparison c, .sign ')' =>
    match r.outer with
    | [] => none
    | frame :: outer => some ⟨outer, frame, .comparison (r.frame.whole c)⟩
  | _, _ => none

/-- The condition that the end of the text completes, if it does. -/
def finish? (r : Reader) : Option Condition :=
  match r.outer, r.stage with
  | [], .comparison c => some (r.frame.whole c)
  | _, _ => none

end Reader

def Quoting.condition? (q : Quoting) (s : List Char) : Option Condition := do
  let reader ← (← q.lexemes? s).foldlM Reader.step {}
  reader.finish?

end SystemCatalog.Sql
