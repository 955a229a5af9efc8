import SystemCatalog.Catalog.Query
import SystemCatalog.Sql.Token

/-!
# Shapes of lookups

Two lookups have one shape when they differ only in texts that callers search for.  A server should
read their statements alike: the same text around the literals, and the same literals but for those
that stand for a pattern.
-/

namespace SystemCatalog.Catalog

open Sql

inductive Argument where
  | schema
  | table
  | column
  deriving DecidableEq, Repr

/-- The patterns that a lookup reads, in the order in which its statement tests them. -/
def Kind.arguments : Kind → List Argument
  | .tables => [.schema, .table]
  | .columns => [.schema, .table, .column]
  | .primaryKeys => [.table, .schema]
  | .schemas => [.schema]

namespace Filters

def value (f : Filters) : Argument → Datum
  | .schema => f.schema
  | .table => f.table
  | .column => f.column

end Filters

def Writable (d : Datum) : Prop := ∃ s, d = .text s ∧ '\x00' ∉ s.toList

/-- What stands between apostrophes in a statement. -/
inductive Slot where
  | fixed (text : String)
  | argument (a : Argument)
  deriving DecidableEq, Repr

namespace Slot

def value (f : Filters) : Slot → Datum
  | fixed text => .text text
  | argument a => f.value a

def argument? : Slot → Option Argument
  | fixed _ => none
  | argument a => some a

end Slot

namespace Query

/-- Whether a pattern is written as a literal: exact names always are, search patterns unless they
are empty. -/
def isWritten (kind : Kind) : Datum → Bool
  | .text s => kind = .primaryKeys || s != ""
  | _ => false

def written (kind : Kind) (f : Filters) : List Argument :=
  kind.arguments.filter fun a => isWritten kind (f.value a)

/-- Whether two values for a pattern have the same shape: neither is given, both are empty or both
are texts that can be written. -/
inductive SameShape (kind : Kind) : Argument → Datum → Datum → Prop where
  | absent {a : Argument} (optional : kind = .primaryKeys → a = .schema) :
      SameShape kind a .null .null
  | blank {a : Argument} (search : kind ≠ .primaryKeys) :
      SameShape kind a (.text "") (.text "")
  | filled {a : Argument} {s t : String} (left : isWritten kind (.text s))
      (right : isWritten kind (.text t)) (zero : '\x00' ∉ s.toList) (zero' : '\x00' ∉ t.toList) :
      SameShape kind a (.text s) (.text t)

/-- Whether the catalog of a version tells types of tables apart. -/
def isTyped (version : Version) : Bool :=
  match Strategy.tablesForm.select version with
  | .ok form => form = .tablesExtended
  | .error _ => false

def supportedTypes (typed : Bool) : List String :=
  if typed then tableTypes else ["SYSTEM TABLE", "TABLE"]

/-- The distinct supported kinds among the requested ones, without padding and in capital letters,
in the order in which they are first requested. -/
def demandedKinds (typed : Bool) (kinds : List String) : List String :=
  ((kinds.map normalizeKind).filter (supportedTypes typed).contains).eraseDups

/-- Whether two requests ask for the same kinds of tables: neither for any, or both for kinds that a
version's catalog does not tell apart. -/
inductive SameTypes (version : Version) : Datum → Datum → Prop where
  | absent : SameTypes version .null .null
  | requested {d e : Datum} {kinds others : List String}
      (left : requestedKinds d = .ok (kinds.map .text))
      (right : requestedKinds e = .ok (others.map .text))
      (same : demandedKinds (isTyped version) kinds = demandedKinds (isTyped version) others) :
      SameTypes version d e

def literals (tokens : List Token) : List Datum := (tokens.filterMap Token.literal?).map .text

/-- Whether a server reads two statements alike: it closes every literal, finds the same text around
them, and the same literals but for those that stand for the patterns `arguments`, each of which it
reads as the pattern of its lookup. -/
def ReadAlike (q : Quoting) (arguments : List Argument) (f g : Filters) (s t : String) : Prop :=
  ∃ (tokens others : List Token) (slots : List Slot),
    q.tokens? s.toList = some tokens ∧ q.tokens? t.toList = some others ∧
    tokens.map Token.outside? = others.map Token.outside? ∧
    literals tokens = slots.map (Slot.value f) ∧ literals others = slots.map (Slot.value g) ∧
    slots.filterMap Slot.argument? = arguments

end Query

end SystemCatalog.Catalog
