import SystemCatalog.Datum.Order
import SystemCatalog.Datum.Shown
import SystemCatalog.Number.Binary64.Places
import SystemCatalog.Text.Percent

/-!
# Message templates

A template holds conversions, each a percent sign, options and a letter that says how an argument
is written.  Arguments are taken in their order, or by a key in parentheses from a dictionary.  A
template that does not fit its arguments has no message.
-/

namespace SystemCatalog.Journal.Template

open Number Text

/-- The arguments that are left: those in order, and the dictionary that keys refer to. -/
structure Arguments where
  waiting : List Datum
  keyed : Option (List (Datum × Datum)) := none

/-- The arguments of a message; a single dictionary with entries can be referred to by keys. -/
def Arguments.ofList : List Datum → Arguments
  | [.dict entries] =>
    { waiting := [.dict entries], keyed := if entries.isEmpty then none else some entries }
  | items => { waiting := items }

def Arguments.exhausted (a : Arguments) : Bool := a.keyed.isSome || a.waiting.isEmpty

def Arguments.next? (a : Arguments) : Option (Datum × Arguments) :=
  match a.waiting with
  | [] => none
  | d :: rest => some (d, { a with waiting := rest })

def Arguments.refer? (a : Arguments) (key : String) : Option Arguments := do
  let entries ← a.keyed
  let entry ← entries.find? fun e => e.1.same (.text key)
  return { a with waiting := [entry.2] }

structure Layout where
  left : Bool := false
  plus : Bool := false
  blank : Bool := false
  alternate : Bool := false
  zero : Bool := false
  width : Nat := 0
  precision : Option Nat := none

/-- The key in parentheses, which may be nested to the depth, and what follows it. -/
def key? : (depth : Nat) → List Char → Option (List Char × List Char)
  | _, [] => none
  | depth, c :: rest =>
    if c = ')' ∧ depth = 0 then some ([], rest)
    else
      let depth := if c = ')' then depth - 1 else if c = '(' then depth + 1 else depth
      (key? depth rest).map fun (key, rest) => (c :: key, rest)

def Layout.flag? (l : Layout) : Char → Option Layout
  | '-' => some { l with left := true }
  | '+' => some { l with plus := true }
  | ' ' => some { l with blank := true }
  | '#' => some { l with alternate := true }
  | '0' => some { l with zero := true }
  | _ => none

/-- The options with the flags at the front of the text set, and what follows them. -/
def Layout.flags (l : Layout) : List Char → Layout × List Char
  | [] => (l, [])
  | c :: rest =>
    match l.flag? c with
    | some l => l.flags rest
    | none => (l, c :: rest)

def widthLimit : Nat := Nat.pow 2 63 - 1

def precisionLimit : Nat := Nat.pow 2 31 - 1

def paddingLimit : Nat := Nat.pow 2 24

def count? : Datum → Option Int
  | .int n => some n
  | .bool b => some b.toNat
  | _ => none

/-- A width or a precision: a star takes it from the arguments, digits give it, and without either
there is none.  A size fits the limit, and a negative one goes one further. -/
def size? (limit : Nat) (a : Arguments) : List Char → Option (Option Int × Arguments × List Char)
  | '*' :: rest => do
    let (d, a) ← a.next?
    let n ← count? d
    if -(limit : Int) - 1 ≤ n ∧ n ≤ limit then some (some n, a, rest) else none
  | s =>
    let digits := s.takeWhile Char.isDigit
    let n := Nat.ofDigitChars 10 digits 0
    if digits.isEmpty then some (none, a, s)
    else if n ≤ limit then some (some n, a, s.drop digits.length)
    else none

/-- The integer that an argument is written as: a number with a fraction loses it, unless its
digits are not decimal. -/
def integer? (decimal : Bool) : Datum → Option Int
  | .int n => some n
  | .bool b => some b.toNat
  | .float x => if decimal then x.truncate? else none
  | _ => none

def real? : Datum → Option Binary64
  | .float x => some x
  | .int n =>
    match Binary64.nearest (n < 0) n.natAbs 1 with
    | .infinite _ => none
    | x => some x
  | .bool b => some (Binary64.nearest false b.toNat 1)
  | _ => none

/-- An integer in digits of the base, with at least as many as the precision says. -/
def writeInteger? (l : Layout) (base : Nat) (n : Int) : Option (List Char) :=
  let digits := Nat.toDigits base n.natAbs
  let least := l.precision.getD 1
  if least ≤ paddingLimit then
    some ((if n < 0 then ['-'] else []) ++ List.replicate (least - digits.length) '0' ++ digits)
  else none

/-- The places of a number in the style of the letter `e`, `f` or `g`.  With an exponent, the digit
ahead of the point counts too, and a count beyond the limit leaves this digit alone.  Only a general
form that drops zeros at its end may have more places than can be written. -/
def places? (l : Layout) (style : Char) : Option Nat :=
  let places := l.precision.getD 6
  if style = 'e' ∧ precisionLimit ≤ places then some 0
  else if places ≤ paddingLimit ∨ style = 'g' ∧ !l.alternate then some places
  else none

def writeReal? (l : Layout) (style : Char) : Binary64 → Option (List Char)
  | .nan => some ['n', 'a', 'n']
  | .infinite negative => some ((if negative then ['-'] else []) ++ ['i', 'n', 'f'])
  | .finite negative m e => do
    let places ← places? l style
    return (if negative then ['-'] else []) ++
      if style = 'e' then Binary64.exponential l.alternate places m e
      else if style = 'f' then Binary64.fixed l.alternate places m e
      else Binary64.general l.alternate places m e

def asciiOnly (s : List Char) : List Char :=
  s.flatMap fun c =>
    if c.toNat < 0x80 then [c]
    else if c.toNat ≤ 0xff then '\\' :: 'x' :: hex 2 c.toNat
    else if c.toNat ≤ 0xffff then '\\' :: 'u' :: hex 4 c.toNat
    else '\\' :: 'U' :: hex 8 c.toNat

def cut (l : Layout) (s : String) : List Char :=
  match l.precision with
  | some n => s.toList.take n
  | none => s.toList

def padText (l : Layout) (s : List Char) : List Char :=
  let padding := List.replicate (l.width - s.length) ' '
  if l.left then s ++ padding else padding ++ s

/-- The written number padded to the width, with its sign and the mark of its base; zeros go between
these and the digits. -/
def padNumber (l : Layout) (mark s : List Char) : List Char :=
  let (sign, digits) : List Char × List Char :=
    match s with
    | '-' :: digits => (['-'], digits)
    | digits => (if l.plus then ['+'] else if l.blank then [' '] else [], digits)
  let start := sign ++ mark
  let missing := l.width - (start.length + digits.length)
  if l.left then start ++ digits ++ List.replicate missing ' '
  else if l.zero then start ++ List.replicate missing '0' ++ digits
  else List.replicate missing ' ' ++ start ++ digits

/-- The character that an argument gives: itself, or the one of a code point. -/
def character? : Datum → Option Char
  | .text s =>
    match s.toList with
    | [c] => some c
    | _ => none
  | .int n => if 0 ≤ n ∧ n.toNat.isValidChar then some (Char.ofNat n.toNat) else none
  | .bool b => some (Char.ofNat b.toNat)
  | _ => none

def write? (l : Layout) (letter : Char) (d : Datum) : Option (List Char) :=
  let whole (decimal : Bool) (base : Nat) (mark : List Char) : Option (List Char) := do
    let s ← writeInteger? l base (← integer? decimal d)
    return padNumber l (if l.alternate then mark else []) s
  let real (style : Char) : Option (List Char) := do
    return padNumber l [] (← writeReal? l style (← real? d))
  let capital (s : Option (List Char)) : Option (List Char) := s.map (·.map Char.toUpper)
  match letter with
  | 's' => some (padText l (cut l d.plain))
  | 'r' => some (padText l (cut l d.shown))
  | 'a' => some (padText l (cut l (String.ofList (asciiOnly d.shown.toList))))
  | 'd' | 'i' | 'u' => whole true 10 []
  | 'o' => whole false 8 ['0', 'o']
  | 'x' => whole false 16 ['0', 'x']
  | 'X' => capital (whole false 16 ['0', 'x'])
  | 'e' | 'f' | 'g' => real letter
  | 'E' | 'F' | 'G' => capital (real letter.toLower)
  | 'c' => (character? d).map fun c => padText l [c]
  | _ => none

/-- The options with a width; a negative one pads at the other end. -/
def Layout.widen? (l : Layout) (n : Int) : Option Layout :=
  let width := if n < -widthLimit then 0 else n.natAbs
  if width ≤ paddingLimit then some { l with left := l.left || n < 0, width } else none

def layout? (a : Arguments) (s : List Char) : Option (Layout × Arguments × List Char) := do
  let (l, s) := Layout.flags {} s
  let (width, a, s) ← size? widthLimit a s
  let l ← l.widen? (width.getD 0)
  match s with
  | '.' :: s =>
    let (precision, a, s) ← size? precisionLimit a s
    return ({ l with precision := some (precision.getD 0).toNat }, a, s)
  | _ => return (l, a, s)

/-- The text after a letter for the size of a number, which says nothing here. -/
def dropSize : List Char → List Char
  | c :: rest => if c = 'h' ∨ c = 'l' ∨ c = 'L' then rest else c :: rest
  | [] => []

/-- The arguments after the key of a conversion, if it has one, and what follows it. -/
def refer? (a : Arguments) : List Char → Option (Arguments × List Char)
  | '(' :: s => do
    let (key, s) ← key? 0 s
    return (← a.refer? (String.ofList key), s)
  | s => some (a, s)

/-- A conversion after its percent sign: its text, the arguments that are left and what follows.  A
doubled percent sign stands for itself. -/
def conversion? (a : Arguments) : List Char → Option (List Char × Arguments × List Char)
  | '%' :: s => some (['%'], a, s)
  | s => do
    let (a, s) ← refer? a s
    let (l, a, s) ← layout? a s
    match dropSize s with
    | [] => none
    | letter :: s =>
      let (d, a) ← a.next?
      return (← write? l letter d, a, s)

/-- The message for a template; each step takes at least one character, so that fuel beyond the
length of the template suffices. -/
def fill? : (fuel : Nat) → Arguments → List Char → Option (List Char)
  | 0, _, _ => none
  | _ + 1, a, [] => if a.exhausted then some [] else none
  | fuel + 1, a, '%' :: rest => do
    let (text, a, rest) ← conversion? a rest
    return text ++ (← fill? fuel a rest)
  | fuel + 1, a, c :: rest => (fill? fuel a rest).map (c :: ·)

/-- The message for a template and its arguments; without arguments the template is the message. -/
def message? (template : String) (arguments : List Datum) : Option String :=
  if arguments.isEmpty then some template
  else
    let s := template.toList
    (fill? (s.length + 1) (Arguments.ofList arguments) s).map String.ofList

end SystemCatalog.Journal.Template
