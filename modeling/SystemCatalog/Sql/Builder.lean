import SystemCatalog.Sql.Operand

/-!
# Statements from clauses

A statement is its clauses with single spaces between them.  Clauses without parts are left out,
and so is a condition's keyword when the condition demands nothing.
-/

namespace SystemCatalog.Sql

structure Builder where
  clauses : List Operand := []

namespace Builder

def empty : Builder := {}

/-- The clauses with one more at the end; text is taken as trusted, even when it is empty. -/
def add (b : Builder) : Operand → Builder
  | .text s => ⟨b.clauses ++ [.fragment (.trusted s)]⟩
  | clause => if clause.isPresent then ⟨b.clauses ++ [clause]⟩ else b

def whereClause (b : Builder) (condition : Operand) : Builder :=
  if condition.isPresent then (b.add (.text "WHERE")).add condition else b

/-- The clauses with the columns to sort by; without columns there is nothing to sort by. -/
def orderBy (b : Builder) (columns : List String) : Builder :=
  if columns.isEmpty then b
  else b.add (.text ("ORDER BY " ++ String.intercalate ", " columns))

def build (b : Builder) : Except Fault Fragment :=
  Operand.join (.trusted " ") b.clauses

def render (q : Quoting) (b : Builder) : Except Fault String := do (← b.build).render q

end Builder

inductive Builder.Step where
  | add (clause : Expression)
  | whereClause (condition : Expression)
  | orderBy (columns : List String)

def Builder.Step.apply (b : Builder) : Builder.Step → Except Fault Builder
  | .add clause => do return b.add (← clause.evaluate)
  | .whereClause condition => do return b.whereClause (← condition.evaluate)
  | .orderBy columns => .ok (b.orderBy columns)

/-- The clauses after all calls, and the statement's text after each; a call that fails changes
nothing. -/
def Builder.run (q : Quoting) (b : Builder) :
    List Builder.Step → Builder × List (Except Fault String)
  | [] => (b, [])
  | step :: rest =>
    match step.apply b with
    | .error f =>
      let (last, texts) := run q b rest
      (last, .error f :: texts)
    | .ok b =>
      let (last, texts) := run q b rest
      (last, b.render q :: texts)

end SystemCatalog.Sql
