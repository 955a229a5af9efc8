import SystemCatalog.Sql.Literal

/-!
# Reading statements

A server tells the string literals of a statement from the text around them.  An apostrophe opens a
literal, with the letter `E` in front or without it; inside of a literal two apostrophes stand for
one, and a backslash escapes the next character where the server's rule says so.
-/

namespace SystemCatalog.Sql

inductive Token where
  | other (c : Char)
  | literal (value : List Char)
  deriving DecidableEq, Repr

namespace Token

/-- The character outside of literals, or none in the place of a literal. -/
def outside? : Token → Option Char
  | other c => some c
  | literal _ => none

def literal? : Token → Option String
  | other _ => none
  | literal value => some (String.ofList value)

end Token

/-- Where a reader stands in a statement; a literal's `value` is the text that its characters stand
for so far. -/
inductive Place where
  | outside (word : Bool)
  /-- After a letter that belongs to a literal if one opens now. -/
  | marked (letter : Char)
  | inside (value : List Char)
  | escaped (value : List Char)
  /-- After an apostrophe that closes the literal, if no other follows. -/
  | closing (value : List Char)
  deriving DecidableEq, Repr

def isWord (c : Char) : Bool := c.isAlphanum || c == '_'

/-- Whether the character, as a word of its own, belongs to a literal that follows. -/
def isMark (c : Char) : Bool := c == 'E' || c == 'e'

namespace Quoting

/-- The tokens that a character completes, and the place after it. -/
def step (q : Quoting) : Place → Char → List Token × Place
  | .outside word, c =>
    if c = '\'' then ([], .inside [])
    else if !word && isMark c then ([], .marked c)
    else ([.other c], .outside (isWord c))
  | .marked letter, c =>
    if c = '\'' then ([], .inside [])
    else ([.other letter, .other c], .outside (isWord c))
  | .inside value, c =>
    if c = '\'' then ([], .closing value)
    else if c = '\\' ∧ q = escaping then ([], .escaped value)
    else ([], .inside (value ++ [c]))
  | .escaped value, c => ([], .inside (value ++ [c]))
  | .closing value, c =>
    if c = '\'' then ([], .inside (value ++ ['\'']))
    else if isMark c then ([.literal value], .marked c)
    else ([.literal value, .other c], .outside (isWord c))

/-- The tokens that a text completes, and the place after it. -/
def scan (q : Quoting) (place : Place) : List Char → List Token × Place
  | [] => ([], place)
  | c :: rest =>
    let (found, next) := q.step place c
    let (more, last) := q.scan next rest
    (found ++ more, last)

end Quoting

/-- The tokens that the end of the text completes; none if a literal is open. -/
def Place.finish? : Place → Option (List Token)
  | outside _ => some []
  | marked letter => some [.other letter]
  | closing value => some [.literal value]
  | inside _ | escaped _ => none

/-- The tokens of a text; none if it leaves a literal open. -/
def Quoting.tokens? (q : Quoting) (s : List Char) : Option (List Token) :=
  let (found, last) := q.scan (.outside false) s
  last.finish?.map (found ++ ·)

end SystemCatalog.Sql
