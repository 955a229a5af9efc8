/-!
# Tables of character intervals

A character is a Unicode scalar value, so that texts with lone surrogates are outside of this
library.  A character class of the Unicode standard is kept as a list of closed intervals of code
points.
-/

namespace SystemCatalog.Text

def covers (intervals : List (Nat × Nat)) (c : Char) : Bool :=
  intervals.any fun (lo, hi) => lo ≤ c.toNat && c.toNat ≤ hi

theorem covers_eq_true_iff {intervals : List (Nat × Nat)} {c : Char} :
    covers intervals c = true ↔ ∃ r ∈ intervals, r.1 ≤ c.toNat ∧ c.toNat ≤ r.2 := by
  simp [covers, List.any_eq_true]

end SystemCatalog.Text
