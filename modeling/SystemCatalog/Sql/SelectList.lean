import SystemCatalog.Sql.Lexeme

/-!
# Names of selected columns

The columns of a result have the names that the statement gives to them: what stands last in an
item of its list is the item's alias, or the name of the column itself.
-/

namespace SystemCatalog.Sql

/-- The names of the items up to the source of the rows, where `last` is the last word of the item
that has begun; a list without a source has none. -/
def itemNames (last : Option String) : List Lexeme → Option (List String)
  | [] => none
  | .word "FROM" :: _ => return [← last]
  | .word s :: rest => itemNames (some s) rest
  | .sign ',' :: rest => do return (← last) :: (← itemNames none rest)
  | _ :: rest => itemNames last rest

def Quoting.selectedNames? (q : Quoting) (s : List Char) : Option (List String) :=
  match q.lexemes? s with
  | some (.word "SELECT" :: items) => itemNames none items
  | _ => none

end SystemCatalog.Sql
