import Mathlib.Data.Prod.Lex
import SystemCatalog.Proofs.Version.Reading

/-!
# The order of versions

Parts that are integers, or truth values, make a version a triple.  Versions compare as their
triples do, from the most significant part on.  The parts of a version that is read from text are
natural numbers.
-/

namespace SystemCatalog

namespace Datum

/-- The integer that a value compares as, if it is one or a truth value. -/
def integer? : Datum → Option Int
  | int n => some n
  | bool b => some b.toNat
  | _ => none

variable {d e : Datum} {m n : Int}

theorem same_eq_of_integer? (hd : d.integer? = some m) (he : e.integer? = some n) :
    d.same e = decide (m = n) := by
  have whole : (d.same e) = ((Numeric.whole m).compare? (.whole n) == some .eq) := by
    cases d <;> simp only [integer?, reduceCtorEq, Option.some.injEq] at hd <;>
      cases e <;> simp only [integer?, reduceCtorEq, Option.some.injEq] at he <;>
      subst hd he <;> rw [same] <;> simp [numeric?]
  simp [whole, Numeric.compare?, Bool.beq_eq_decide_eq]

theorem less?_eq_of_integer? (hd : d.integer? = some m) (he : e.integer? = some n) :
    d.less? e = some (decide (m < n)) := by
  have whole : d.less? e = some ((Numeric.whole m).compare? (.whole n) == some .lt) := by
    cases d <;> simp only [integer?, reduceCtorEq, Option.some.injEq] at hd <;>
      cases e <;> simp only [integer?, reduceCtorEq, Option.some.injEq] at he <;>
      subst hd he <;> rw [less?] <;> simp [numeric?]
  simp [whole, Numeric.compare?, Bool.beq_eq_decide_eq, Int.compare_eq_lt]

theorem isKey_of_integer? (h : d.integer? = some n) : d.isKey := by
  cases d <;> simp_all [integer?, isKey]

end Datum

namespace Version

/-- Three integers, ordered from the left. -/
abbrev Triple := Int ×ₗ Int ×ₗ Int

def Triple.of (major minor patch : Int) : Triple := toLex (major, toLex (minor, patch))

theorem Triple.of_lt_of {a b c a' b' c' : Int} :
    Triple.of a b c < Triple.of a' b' c' ↔ a < a' ∨ a = a' ∧ (b < b' ∨ b = b' ∧ c < c') := by
  simp [Triple.of, Prod.Lex.toLex_lt_toLex]

theorem Triple.of_le_of {a b c a' b' c' : Int} :
    Triple.of a b c ≤ Triple.of a' b' c' ↔ a < a' ∨ a = a' ∧ (b < b' ∨ b = b' ∧ c ≤ c') := by
  simp [Triple.of, Prod.Lex.toLex_le_toLex]

theorem Triple.of_inj {a b c a' b' c' : Int} :
    Triple.of a b c = Triple.of a' b' c' ↔ a = a' ∧ b = b' ∧ c = c' := by
  simp [Triple.of]

/-- The triple that a version compares as, if its parts are integers. -/
def triple? (v : Version) : Option Triple := do
  return .of (← v.major.integer?) (← v.minor.integer?) (← v.patch.integer?)

theorem triple?_ofInts (a b c : Int) : (ofInts a b c).triple? = some (.of a b c) := rfl

variable {v w : Version} {x y : Triple}

theorem triple?_eq_some (h : v.triple? = some x) :
    ∃ a b c, v.major.integer? = some a ∧ v.minor.integer? = some b ∧
      v.patch.integer? = some c ∧ x = .of a b c := by
  simp only [triple?, Option.pure_def, Option.bind_eq_bind, Option.bind_eq_some_iff,
    Option.some.injEq] at h
  obtain ⟨a, ha, b, hb, c, hc, rfl⟩ := h
  exact ⟨a, b, c, ha, hb, hc, rfl⟩

theorem same_of_triple? (hv : v.triple? = some x) (hw : w.triple? = some y) :
    v.same w = decide (x = y) := by
  obtain ⟨a, b, c, ha, hb, hc, rfl⟩ := triple?_eq_some hv
  obtain ⟨a', b', c', ha', hb', hc', rfl⟩ := triple?_eq_some hw
  simp [same, parts, Datum.sameAll, Datum.same_eq_of_integer? ha ha',
    Datum.same_eq_of_integer? hb hb', Datum.same_eq_of_integer? hc hc', Triple.of_inj]

theorem before_of_triple? (hv : v.triple? = some x) (hw : w.triple? = some y) :
    v.before w = .ok (decide (x < y)) := by
  obtain ⟨a, b, c, ha, hb, hc, rfl⟩ := triple?_eq_some hv
  obtain ⟨a', b', c', ha', hb', hc', rfl⟩ := triple?_eq_some hw
  simp only [before, parts, Datum.lessAll?, Datum.same_eq_of_integer? ha ha',
    Datum.same_eq_of_integer? hb hb', Datum.same_eq_of_integer? hc hc',
    Datum.less?_eq_of_integer? ha ha', Datum.less?_eq_of_integer? hb hb',
    Datum.less?_eq_of_integer? hc hc', Triple.of_lt_of]
  by_cases major : a = a'
  · by_cases minor : b = b'
    · by_cases patch : c = c' <;> simp [major, minor, patch]
    · simp [major, minor]
  · simp [major]

theorem atLeast_of_triple? (hv : v.triple? = some x) (hw : w.triple? = some y) :
    v.atLeast w = .ok (decide (y ≤ x)) := by
  rw [atLeast, same_of_triple? hv hw, before_of_triple? hw hv]
  by_cases equal : x = y
  · simp [equal]
  · simp [equal, le_iff_lt_or_eq, Ne.symm equal]

theorem isKey_of_triple? (h : v.triple? = some x) : v.parts.all Datum.isKey := by
  obtain ⟨a, b, c, ha, hb, hc, -⟩ := triple?_eq_some h
  simp [parts, Datum.isKey_of_integer? ha, Datum.isKey_of_integer? hb, Datum.isKey_of_integer? hc]

theorem atLeast_ofInts (a b c x y z : Int) :
    (ofInts a b c).atLeast (ofInts x y z) =
      .ok (decide (x < a ∨ x = a ∧ (y < b ∨ y = b ∧ z ≤ c))) := by
  rw [atLeast_of_triple? (triple?_ofInts a b c) (triple?_ofInts x y z)]
  simp only [Triple.of_le_of]

/-- Whether the version is one that an engine can have. -/
def IsEngine (v : Version) : Prop :=
  ∃ major minor patch : Nat, v = .ofInts major minor patch

/-- Every version that can be read from text is one that an engine can have. -/
theorem isEngine_of_ofText {s : String} (read : ofText s = .ok v) : v.IsEngine := by
  obtain ⟨runs, -, -, rfl⟩ := ofText_eq_ok_iff.mp read
  exact ⟨_, _, _, rfl⟩

end Version

end SystemCatalog
