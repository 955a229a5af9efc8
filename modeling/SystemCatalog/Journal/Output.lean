import SystemCatalog.Fault
import SystemCatalog.Journal.Record
import SystemCatalog.Journal.Template

/-!
# Printed records

Records from the level of the output on are printed, each with the correlation id of the moment.  An
id is given by the caller or made when it is first needed, and made ids are numbered in the order in
which they are first shown.
-/

namespace SystemCatalog.Journal

inductive Correlation where
  | given (value : Datum)
  | made (number : Option Nat)

structure Output where
  /-- The least level that is printed, as it was given. -/
  level : Datum := .int Level.info
  correlation : Option Correlation := none
  shown : Nat := 0

namespace Output

/-- The least level that is printed: the output's own, or that of warnings if it has none. -/
def threshold (o : Output) : Level :=
  match Level.ofDatum o.level with
  | .ok level => if level = 0 then Level.warning else level
  | .error _ => Level.warning

def prints (o : Output) (level : Level) : Bool := 0 < level && o.threshold ≤ level

def identified (o : Output) : Output :=
  match o.correlation with
  | some _ => o
  | none => { o with correlation := some (.made none) }

/-- The correlation id, which is made if there is none, and the output after it is shown. -/
def identify (o : Output) : Datum × Output :=
  let label (n : Nat) : Datum := .text ("<auto" ++ toString n ++ ">")
  match o.correlation with
  | some (.given value) => (value, o)
  | some (.made (some n)) => (label n, o)
  | _ =>
    let n := o.shown + 1
    (label n, { o with correlation := some (.made (some n)), shown := n })

/-- The output with the given correlation id; a value that counts as false asks for a made one. -/
def correlate (o : Output) (value : Datum) : Output :=
  { o with correlation := some (if value.truthy then .given value else .made none) }

/-- The output after it is set up with a level; only a fresh one takes the level. -/
def configure (o : Output) (level : Datum) (fresh : Bool) : Except Fault Output :=
  if fresh then do return { o with level := ← Level.setting level } else .ok o

end Output

inductive Output.Step where
  | correlate (value : Datum)
  | identify
  | configure (level : Datum) (fresh : Bool)
  | log (logger : String) (level : Datum) (template : String) (arguments : List Datum)
  | timed (logger name : String) (threshold : Int) (sql : Option String) (parameters : Datum)
    (failure : Option String)

inductive Output.Reply where
  | id (value : Datum)
  | setup (handlers : Nat) (level : Datum)
  | line (printed : Option String)
  | block (failure : Option Fault) (records : List Record)

namespace Output

/-- The line of a message after its time: the level, the id, the logger and the message, with bars
between them. -/
def line (level : String) (id : Datum) (logger message : String) : String :=
  String.intercalate " | " [level, id.plain, loggerName logger, message]

def splitBar : List Char → List Char × Option (List Char)
  | ' ' :: '|' :: ' ' :: rest => ([], some rest)
  | c :: rest =>
    let (field, rest) := splitBar rest
    (c :: field, rest)
  | [] => ([], none)

def fields : Nat → List Char → List String
  | 0, s => [String.ofList s]
  | n + 1, s =>
    match splitBar s with
    | (field, some rest) => String.ofList field :: fields n rest
    | (field, none) => [String.ofList field]

def dropBreaks (s : List Char) : List Char := (s.reverse.dropWhile (· == '\n')).reverse

/-- The fields of a printed line; line breaks at its end belong to none of them. -/
def lineFields (line : String) : List String := fields 3 (dropBreaks line.toList)

/-- A printed message with its id; a template that does not fit its arguments prints nothing, but
its record has an id. -/
def log (o : Output) (logger : String) (level : Datum) (template : String)
    (arguments : List Datum) : Except Fault (Reply × Output) := do
  let n ← Level.ofDatum level
  if !o.prints n then return (.line none, o)
  else
    match Template.message? template arguments with
    | none => return (.line none, o.identified)
    | some message =>
      let (id, o) := o.identify
      return (.line (some (line (Level.shown level n) id logger message)), o)

def time (o : Output) (record : Record) (failure : Option String) : Reply × Output :=
  if o.prints record.level then (.block (failure.map .raised) [record], o.identified)
  else (.block (failure.map .raised) [], o)

def step (o : Output) : Step → Except Fault (Reply × Output)
  | .correlate value =>
    let (id, o) := (o.correlate value).identify
    .ok (.id id, o)
  | .identify =>
    let (id, o) := o.identify
    .ok (.id id, o)
  | .configure level fresh => do
    let o ← o.configure level fresh
    return (.setup 1 o.level, o)
  | .log logger level template arguments => o.log logger level template arguments
  | .timed logger name threshold sql parameters failure =>
    .ok (o.time (Record.timed logger name threshold ⟨sql, parameters, failure.isSome⟩) failure)

/-- What the steps show; a step that fails changes nothing. -/
def run (o : Output) : List Step → List (Except Fault Reply)
  | [] => []
  | s :: rest =>
    match o.step s with
    | .ok (reply, o) => .ok reply :: run o rest
    | .error f => .error f :: run o rest

end Output

end SystemCatalog.Journal
