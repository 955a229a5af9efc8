import Mathlib.Data.List.Forall2
import SystemCatalog.Catalog.Selection
import SystemCatalog.Proofs.Text.LetterCase

/-!
# Records of delivered rows

A record has the values that a driver has delivered for the columns, whichever way it delivers
them: `Delivers.carries`.
-/

namespace SystemCatalog.Catalog

variable {names : List String} {values : List Datum} {r : Record} {name : String}

/-! ### Lists of computations -/

theorem mapM_forall₂ {α β γ ε : Type} {R : α → β → Prop} {P : α → γ → Prop} {f : β → Except ε γ}
    {as : List α} {bs : List β} (related : List.Forall₂ R as bs)
    (step : ∀ a ∈ as, ∀ b, R a b → ∃ c, f b = .ok c ∧ P a c) :
    ∃ cs, bs.mapM f = .ok cs ∧ List.Forall₂ P as cs := by
  induction related with
  | nil => exact ⟨[], rfl, .nil⟩
  | @cons a b as bs head tail ih =>
    obtain ⟨c, first, holds⟩ := step a List.mem_cons_self b head
    obtain ⟨cs, rest, all⟩ := ih fun other mem => step other (List.mem_cons_of_mem _ mem)
    refine ⟨c :: cs, ?_, .cons holds all⟩
    rw [List.mapM_cons, first, rest]
    rfl

/-! ### Names in small letters -/

theorem recordNames_small (small : (names.all fun name => name.toList.all Text.isSmall) = true) :
    recordNames names = names := by
  have same : ∀ name ∈ names, Record.fieldName (.text name) = name := by
    intro name mem
    rw [Record.fieldName, Datum.plain, Text.lower_of_small (List.all_eq_true.mp small name mem),
      String.ofList_toList]
  rw [recordNames, List.map_congr_left same, List.map_id']

/-! ### Records -/

structure Carries (names : List String) (values : List Datum) (r : Record) : Prop where
  full : values.length = names.length
  get? : ∀ p ∈ names.zip values, r.get? p.1 = some p.2
  admitted : ∀ p ∈ names.zip values, admits p.1 p.2 = true

theorem Carries.value (h : Carries names values r) (mem : name ∈ names) :
    ∃ d, (name, d) ∈ names.zip values ∧ r.get? name = some d ∧ admits name d = true := by
  have first : (names.zip values).map (·.1) = names := List.map_fst_zip (Nat.le_of_eq h.full.symm)
  rw [← first] at mem
  obtain ⟨⟨_, d⟩, paired, rfl⟩ := List.mem_map.mp mem
  exact ⟨d, paired, h.get? _ paired, h.admitted _ paired⟩

namespace Record

theorem get?_ofFields {fields : List (String × Datum)} (distinct : (fields.map (·.1)).Nodup)
    {d : Datum} (mem : (name, d) ∈ fields) : (ofFields fields).get? name = some d := by
  rw [ofFields, Assoc.ofList_of_nodup distinct]
  exact Assoc.lookup_of_mem distinct mem

theorem require_ok {d : Datum} (known : r.get? name = some d) : r.require name = .ok d := by
  rw [require, known]

theorem getD_eq {d : Datum} (known : r.get? name = some d) : r.getD name = d := by
  rw [getD, known]
  rfl

theorem zipNames_ok (full : values.length = names.length) :
    zipNames names values = .ok (names.zip values) := by
  induction names generalizing values with
  | nil => rfl
  | cons name names ih =>
    cases values with
    | nil => cases full
    | cons value values =>
      rw [zipNames, ih (Nat.succ.inj full)]
      rfl

end Record

theorem Delivers.carries {description : Option (List Datum)} {raw : RawRow}
    (h : Delivers names description values raw) (distinct : (recordNames names).Nodup)
    (inhabited : names ≠ []) (admitted : Admitted names values) :
    ∃ r, Record.ofRow ((description.getD []).map Record.fieldName) raw = .ok r ∧
      Carries (recordNames names) values r := by
  have length : (recordNames names).length = names.length := List.length_map _
  cases h with
  | @cells columns _ described named full =>
    have present : (columns.map Record.fieldName).isEmpty = false := by
      rw [named]
      simpa [recordNames] using inhabited
    have zipped := Record.zipNames_ok (full.trans length.symm)
    refine ⟨Record.ofFields ((recordNames names).zip values), ?_, full.trans length.symm,
      fun p mem => ?_, admitted⟩
    · rw [described, Option.getD_some, Record.ofRow, present, if_neg (by simp), named, zipped]
      rfl
    · refine Record.get?_ofFields ?_ mem
      rwa [List.map_fst_zip (Nat.le_of_eq (length.trans full.symm))]
  | @mapping entries _ named full =>
    refine ⟨_, rfl, full.trans length.symm, fun p mem => ?_, admitted⟩
    refine Record.get?_ofFields ?_ (named.mem_iff.mpr mem)
    rw [(named.map (·.1)).nodup_iff]
    rwa [List.map_fst_zip (Nat.le_of_eq (length.trans full.symm))]

end SystemCatalog.Catalog
