import SystemCatalog.Fault

/-!
# Levels

The urgency of a record is a number, and a few numbers have names.  Callers give a level as a number
or a truth value, and the least level that is printed also by its name.
-/

namespace SystemCatalog.Journal

abbrev Level := Int

namespace Level

def debug : Level := 10

def info : Level := 20

def warning : Level := 30

/-- The levels with names; where a level has two names, the first one is shown. -/
def named : List (String × Level) :=
  [("NOTSET", 0), ("DEBUG", debug), ("INFO", info), ("WARNING", warning), ("WARN", warning),
   ("ERROR", 40), ("CRITICAL", 50), ("FATAL", 50)]

def name? (level : Level) : Option String := (named.find? (·.2 == level)).map (·.1)

/-- The name of a level; one without a name is shown by its number. -/
def name (level : Level) : String := level.name?.getD ("Level " ++ toString level)

def ofDatum : Datum → Except Fault Level
  | .int n => .ok n
  | .bool b => .ok b.toNat
  | _ => .error .wrongKind

def shown (d : Datum) (level : Level) : String := level.name?.getD ("Level " ++ d.plain)

def setting : Datum → Except Fault Datum
  | .text s =>
    match named.lookup s with
    | some level => .ok (.int level)
    | none => .error (.unknownLevel s)
  | d => do
    let _ ← ofDatum d
    return d

end Level

end SystemCatalog.Journal
