import SystemCatalog.Proofs.Catalog.Strategy

/-!
# Versions in handshakes

A server gives its version as a number, two digits per part or, from 100000 on, four digits after
the major part.  Versions come in the order of their numbers, also where the layout changes, and so
a number on a bracket's threshold is the first one in the bracket.
-/

namespace SystemCatalog

namespace Version

def Triple.ofHandshake (n : Int) : Triple :=
  if 100000 ≤ n then .of (n / 10000) (n % 10000) 0 else .of (n / 10000) (n / 100 % 100) (n % 100)

theorem triple?_ofHandshake (n : Int) : (ofHandshake n).triple? = some (.ofHandshake n) := by
  unfold ofHandshake Triple.ofHandshake
  split
  · exact triple?_ofInts _ _ _
  · exact triple?_ofInts _ _ _

theorem Triple.ofHandshake_lt {m n : Int} (less : m < n) :
    Triple.ofHandshake m < .ofHandshake n := by
  unfold ofHandshake
  by_cases long : 100000 ≤ m
  · rw [if_pos long, if_pos (long.trans less.le), of_lt_of]
    omega
  · rw [if_neg long]
    -- A short number has a major part below ten, a long one has ten or more.
    by_cases longer : 100000 ≤ n
    · rw [if_pos longer, of_lt_of]
      omega
    · rw [if_neg longer, of_lt_of]
      omega

theorem Triple.ofHandshake_lt_iff {m n : Int} :
    Triple.ofHandshake m < .ofHandshake n ↔ m < n :=
  StrictMono.lt_iff_lt fun _ _ => ofHandshake_lt

theorem Triple.ofHandshake_le_iff {m n : Int} :
    Triple.ofHandshake m ≤ .ofHandshake n ↔ m ≤ n :=
  StrictMono.le_iff_le fun _ _ => ofHandshake_lt

theorem before_ofHandshake (m n : Int) :
    (ofHandshake m).before (ofHandshake n) = .ok (decide (m < n)) := by
  rw [before_of_triple? (triple?_ofHandshake m) (triple?_ofHandshake n)]
  simp only [Triple.ofHandshake_lt_iff]

theorem atLeast_ofHandshake (m n : Int) :
    (ofHandshake m).atLeast (ofHandshake n) = .ok (decide (n ≤ m)) := by
  rw [atLeast_of_triple? (triple?_ofHandshake m) (triple?_ofHandshake n)]
  simp only [Triple.ofHandshake_le_iff]

example : ofHandshake 90605 = ofInts 9 6 5 ∧ ofHandshake 140003 = ofInts 14 3 0 := ⟨rfl, rfl⟩

end Version

namespace Catalog.Strategy

theorem defaultPrivileges_ofHandshake (n : Int) :
    defaultPrivileges.select (.ofHandshake n) =
      if 0 ≤ n then .ok (if 80400 ≤ n then "arwdDxt" else "arwdxt")
      else .error (.belowBrackets (Version.ofHandshake n).text defaultPrivileges.name) := by
  have start : (Version.ofHandshake n).atLeast (.ofInts 0 0 0) = .ok (decide (0 ≤ n)) :=
    Version.atLeast_ofHandshake n 0
  have reach : (Version.ofHandshake n).atLeast (.ofInts 8 4 0) = .ok (decide (80400 ≤ n)) :=
    Version.atLeast_ofHandshake n 80400
  rw [defaultPrivileges, select_sinceThen_eq start reach]
  simp only [decide_eq_true_eq]
  rfl

end Catalog.Strategy

end SystemCatalog
