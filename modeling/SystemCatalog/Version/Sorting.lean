import SystemCatalog.Sorting
import SystemCatalog.Version

/-!
# Sorting versions

Rows are sorted by their versions.  Values that callers give need not be ordered throughout, and
then the comparisons that are made decide the result.
-/

namespace SystemCatalog.Version

variable {α : Type}

/-- The rows in ascending order of their versions; rows with equal versions keep their order. -/
def sortRows (rows : List (Version × α)) : Except Fault (List (Version × α)) :=
  Sorting.sort (fun row other => row.1.before other.1) rows

theorem sortRows_perm {rows result : List (Version × α)} (h : sortRows rows = .ok result) :
    result.Perm rows :=
  Sorting.sort_perm h

def sort (versions : List Version) : Except Fault (List Version) :=
  Sorting.sort before versions

end SystemCatalog.Version
