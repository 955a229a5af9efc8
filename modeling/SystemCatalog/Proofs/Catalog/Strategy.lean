import SystemCatalog.Catalog.Strategy
import SystemCatalog.Proofs.Version.Order

/-!
# Strategies of a version

A table with one later threshold selects the strategy by the thresholds that a version reaches, and
selects one for every version of an engine.
-/

namespace SystemCatalog.Catalog.Strategy

open Version (Brackets)

variable {α : Type} {name : String} {first later : α} {threshold v : Version}

theorem select_sinceThen {x : α} (h : (sinceThen name first threshold later).select v = .ok x) :
    x = first ∨ x = later := by
  obtain ⟨chosen, found, h⟩ := bind_eq_ok h
  simp only [sinceThen, Brackets.selectFrom] at found
  obtain ⟨reached, -, found⟩ := bind_eq_ok found
  cases reached with
  | false =>
    cases found
    exact absurd h (by simp [throw, throwThe, MonadExceptOf.throw])
  | true =>
    obtain ⟨reached, -, found⟩ := bind_eq_ok found
    cases reached <;> cases found <;> cases h
    · exact Or.inl rfl
    · exact Or.inr rfl

theorem select_sinceThen_eq {started reached : Bool}
    (start : v.atLeast (.ofInts 0 0 0) = .ok started) (reach : v.atLeast threshold = .ok reached) :
    (sinceThen name first threshold later).select v =
      if started then .ok (if reached then later else first)
      else .error (.belowBrackets v.text name) := by
  cases started <;> cases reached <;>
    simp [Brackets.select, sinceThen, Brackets.selectFrom, start, reach, bind, Except.bind, pure,
      Except.pure, throw, throwThe, MonadExceptOf.throw]

theorem select_isEngine (h : v.IsEngine) {x y z : Int} :
    ∃ chosen, (sinceThen name first (.ofInts x y z) later).select v = .ok chosen := by
  obtain ⟨major, minor, patch, rfl⟩ := h
  have start : (Version.ofInts major minor patch).atLeast (.ofInts 0 0 0) = .ok true := by
    rw [Version.atLeast_ofInts]
    congr 1
    exact decide_eq_true (by omega)
  exact ⟨_, select_sinceThen_eq start (Version.atLeast_ofInts ..)⟩

end SystemCatalog.Catalog.Strategy
