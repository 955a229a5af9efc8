import SystemCatalog.Sql.Literal

/-!
# Statement fragments

A fragment keeps the text that this library writes apart from the values that callers supply.
Values reach a statement only as literals, when the fragment is rendered.
-/

namespace SystemCatalog.Sql

inductive Part where
  /-- Keywords, column names and operators. -/
  | trusted (text : String)
  | literal (value : Datum)

/-- A piece of a statement that is written part by part. -/
structure Fragment where
  parts : List Part := []
  deriving Inhabited

namespace Part

def render (q : Quoting) : Part → Except Fault String
  | trusted text => .ok text
  | literal value => q.literalValue value

def value? : Part → Option Datum
  | trusted _ => none
  | literal value => some value

end Part

namespace Fragment

def empty : Fragment := {}

def trusted (text : String) : Fragment := ⟨[.trusted text]⟩

def literal (value : Datum) : Fragment := ⟨[.literal value]⟩

def append (f g : Fragment) : Fragment := ⟨f.parts ++ g.parts⟩

instance : Append Fragment := ⟨append⟩

def isEmpty (f : Fragment) : Bool := f.parts.isEmpty

def join (separator : Fragment) (fragments : List Fragment) : Fragment :=
  fragments.foldl
    (fun joined f =>
      if f.isEmpty then joined
      else if joined.isEmpty then f
      else joined ++ separator ++ f)
    empty

def literals (f : Fragment) : List Datum := f.parts.filterMap Part.value?

def render (q : Quoting) (f : Fragment) : Except Fault String := do
  return String.join (← f.parts.mapM (·.render q))

@[simp] theorem parts_append (f g : Fragment) : (f ++ g).parts = f.parts ++ g.parts := rfl

@[simp] theorem literals_append (f g : Fragment) :
    (f ++ g).literals = f.literals ++ g.literals := by
  simp [literals]

end Fragment

end SystemCatalog.Sql
