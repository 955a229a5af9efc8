import SystemCatalog.Sql.Token

/-!
# Words and signs

Once a server has told the literals of a statement from the text around them, it reads that text as
words and signs.  Blanks only keep words apart.
-/

namespace SystemCatalog.Sql

inductive Lexeme where
  | word (s : String)
  | literal (s : String)
  | sign (c : Char)
  deriving DecidableEq, Repr

namespace Lexeme

def ofWord (s : List Char) : List Lexeme := if s = [] then [] else [word (String.ofList s)]

def ofSign (c : Char) : List Lexeme := if c = ' ' then [] else [sign c]

/-- The lexemes of tokens, the first of which may go on with the word that has `begun`. -/
def group (begun : List Char) : List Token → List Lexeme
  | [] => ofWord begun
  | .literal value :: rest => ofWord begun ++ literal (String.ofList value) :: group [] rest
  | .other c :: rest =>
    if isWord c then group (begun ++ [c]) rest else ofWord begun ++ ofSign c ++ group [] rest

end Lexeme

/-- The lexemes of a text; none if it leaves a literal open. -/
def Quoting.lexemes? (q : Quoting) (s : List Char) : Option (List Lexeme) :=
  (q.tokens? s).map (Lexeme.group [])

end SystemCatalog.Sql
