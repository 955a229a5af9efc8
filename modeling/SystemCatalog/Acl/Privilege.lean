import SystemCatalog.Fault

/-!
# Privileges

An access list names privileges by single letters.
-/

namespace SystemCatalog.Acl

inductive Privilege where
  | select
  | insert
  | update
  | delete
  | truncate
  | rule
  | references
  | trigger
  | execute
  | usage
  | create
  | createTemp
  /-- A right whose letter is not known. -/
  | unknown
  deriving DecidableEq, Repr, Inhabited

namespace Privilege

def all : List Privilege :=
  [select, insert, update, delete, truncate, rule, references, trigger, execute, usage, create,
   createTemp, unknown]

def name : Privilege → String
  | select => "SELECT"
  | insert => "INSERT"
  | update => "UPDATE"
  | delete => "DELETE"
  | truncate => "TRUNCATE"
  | rule => "RULE"
  | references => "REFERENCES"
  | trigger => "TRIGGER"
  | execute => "EXECUTE"
  | usage => "USAGE"
  | create => "CREATE"
  | createTemp => "CREATE TEMP"
  | unknown => "UNKNOWN"

def ofCode : Char → Privilege
  | 'a' => insert
  | 'r' => select
  | 'p' => select
  | 'w' => update
  | 'd' => delete
  | 'D' => truncate
  | 'R' => rule
  | 'x' => references
  | 't' => trigger
  | 'X' => execute
  | 'U' => usage
  | 'C' => create
  | 'T' => createTemp
  | _ => unknown

def ofDatum (d : Datum) : Except Fault Privilege :=
  match d with
  | .text s =>
    match all.find? (·.name == s) with
    | some privilege => .ok privilege
    | none => .error (.unknownMember d "Privilege")
  | _ => .error (.unknownMember d "Privilege")

end Privilege

end SystemCatalog.Acl
