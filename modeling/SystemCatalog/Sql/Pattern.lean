import SystemCatalog.Sql.Fragment

/-!
# Search patterns

A search pattern becomes a condition on a column.  No pattern matches every row, the empty pattern
only rows in which the column is null, and any other is matched with its wildcards.
-/

namespace SystemCatalog.Sql

def matching (column : String) : Datum → Fragment
  | .null => .trusted (column ++ " LIKE '%'")
  | .text "" => .trusted (column ++ " IS NULL")
  | pattern => .trusted (column ++ " LIKE ") ++ .literal pattern

def matching? (column : String) (pattern : Datum) : Fragment :=
  if pattern.isNull then .empty else matching column pattern

def equality (column : String) (value : Datum) : Fragment :=
  .trusted (column ++ " = ") ++ .literal value

/-- The condition that all conditions hold; those without parts demand nothing. -/
def conjunction (conditions : List Fragment) : Fragment :=
  (Fragment.trusted " AND ").join conditions

end SystemCatalog.Sql
