import SystemCatalog.Acl.Grants

/-!
# Reported privileges

Regrouping the entries of an access list by privilege and grantee adds no grant and loses none:
the rows that are reported are the privileges of the entries (`mem_rows`).
-/

namespace SystemCatalog

/-- What holds of a value after an update, if the changed value has what the old one had and one
thing more. -/
theorem Assoc.exists_mem_update {κ β : Type} [BEq κ] [LawfulBEq κ] {key k : κ}
    {change : Option β → β} {P : β → Prop} {added : Prop}
    (changes : ∀ old, P (change old) ↔ (∃ v ∈ old, P v) ∨ added) (entries : List (κ × β)) :
    (∃ v, (k, v) ∈ update key change entries ∧ P v) ↔
      (∃ v, (k, v) ∈ entries ∧ P v) ∨ (k = key ∧ added) := by
  induction entries with
  | nil =>
    have new : P (change none) ↔ added := by simpa using changes none
    simp only [update, List.mem_singleton, Prod.mk.injEq, List.not_mem_nil, false_and,
      exists_false, false_or]
    constructor
    · rintro ⟨v, ⟨rfl, rfl⟩, holds⟩
      exact ⟨rfl, new.mp holds⟩
    · rintro ⟨rfl, holds⟩
      exact ⟨_, ⟨rfl, rfl⟩, new.mpr holds⟩
  | cons entry rest ih =>
    obtain ⟨key', v⟩ := entry
    by_cases same : key' = key
    · subst same
      have changed : P (change (some v)) ↔ P v ∨ added := by simpa using changes (some v)
      simp only [update, beq_self_eq_true, if_true, List.mem_cons, Prod.mk.injEq]
      constructor
      · rintro ⟨w, ⟨rfl, rfl⟩ | mem, holds⟩
        · rcases changed.mp holds with old | new
          · exact Or.inl ⟨v, Or.inl ⟨rfl, rfl⟩, old⟩
          · exact Or.inr ⟨rfl, new⟩
        · exact Or.inl ⟨w, Or.inr mem, holds⟩
      · rintro (⟨w, ⟨rfl, rfl⟩ | mem, holds⟩ | ⟨rfl, new⟩)
        · exact ⟨_, Or.inl ⟨rfl, rfl⟩, changed.mpr (Or.inl holds)⟩
        · exact ⟨w, Or.inr mem, holds⟩
        · exact ⟨_, Or.inl ⟨rfl, rfl⟩, changed.mpr (Or.inr new)⟩
    · simp only [update, beq_eq_false_iff_ne.mpr same, Bool.false_eq_true, if_false,
        List.mem_cons, or_and_right, exists_or, ih, or_assoc]

namespace Acl.Grants

variable {p privilege : Privilege} {g grantee : String} {x grant : Grant}

def Table.Holds (t : Table) (privilege : Privilege) (grantee : String) (grant : Grant) : Prop :=
  ∃ grantees, (privilege, grantees) ∈ t ∧ ∃ grants, (grantee, grants) ∈ grantees ∧ grant ∈ grants

theorem Table.holds_insert (t : Table) :
    (t.insert privilege grantee grant).Holds p g x ↔
      t.Holds p g x ∨ (p = privilege ∧ g = grantee ∧ x = grant) := by
  apply Assoc.exists_mem_update
  intro old
  have inner : (∃ grants, (g, grants) ∈ Assoc.update grantee (fun grants => grants.getD [] ++ [grant])
      (old.getD []) ∧ x ∈ grants) ↔
        (∃ grants, (g, grants) ∈ old.getD [] ∧ x ∈ grants) ∨ (g = grantee ∧ x = grant) :=
    Assoc.exists_mem_update (by rintro (_ | grants) <;> simp) _
  rw [inner]
  cases old <;> simp

theorem Table.holds_foldl_insert (privileges : List (Privilege × Bool)) (name : String)
    (grantor : Option String) (t : Table) :
    (privileges.foldl
        (fun t (privilege, grantable) => t.insert privilege name ⟨grantor, grantable⟩) t).Holds
        p g x ↔
      t.Holds p g x ∨ ((p, x.grantable) ∈ privileges ∧ g = name ∧ x.grantor = grantor) := by
  induction privileges generalizing t with
  | nil => simp
  | cons first rest ih =>
    obtain ⟨privilege, grantable⟩ := first
    rw [List.foldl_cons, ih, Table.holds_insert, List.mem_cons, Prod.mk.injEq, or_assoc]
    obtain ⟨owner, passed⟩ := x
    simp only [Grant.mk.injEq]
    grind

theorem Table.holds_insertEntry (t : Table) (e : Entry) :
    (t.insertEntry e).Holds p g x ↔
      t.Holds p g x ∨ ((p, x.grantable) ∈ e.privileges ∧ g = e.grantee ∧ x.grantor = e.grantor) :=
  Table.holds_foldl_insert e.privileges e.grantee e.grantor t

theorem holds_table (grants : Grants) :
    grants.table.Holds p g x ↔
      ∃ e ∈ grants.entries, (p, x.grantable) ∈ e.privileges ∧ g = e.grantee ∧
        x.grantor = e.grantor := by
  have run : ∀ (entries : List Entry) (t : Table), (entries.foldl Table.insertEntry t).Holds p g x ↔
      t.Holds p g x ∨ ∃ e ∈ entries, (p, x.grantable) ∈ e.privileges ∧ g = e.grantee ∧
        x.grantor = e.grantor := by
    intro entries
    induction entries with
    | nil => simp
    | cons e rest ih =>
      intro t
      rw [List.foldl_cons, ih, Table.holds_insertEntry]
      simp [or_assoc]
  rw [table, run]
  simp [Table.Holds]

theorem mem_rows {grants : Grants} {catalog schema : Option String} {table : String} {row : Row} :
    row ∈ grants.rows catalog schema table ↔
      row.catalog = catalog ∧ row.schema = schema ∧ row.table = table ∧
        ∃ e ∈ grants.entries, (row.privilege, row.grantable) ∈ e.privileges ∧
          row.grantee = e.grantee ∧ row.grantor = e.grantor := by
  rw [← holds_table (x := ⟨row.grantor, row.grantable⟩) grants]
  simp only [rows, sortOn, List.mem_flatMap, List.mem_mergeSort, List.mem_map, Prod.exists,
    Table.Holds]
  constructor
  · rintro ⟨privilege, grantees, grouped, grantee, grants, listed, grant, granted, rfl⟩
    exact ⟨rfl, rfl, rfl, grantees, grouped, grants, listed, granted⟩
  · rintro ⟨rfl, rfl, rfl, grantees, grouped, grants, listed, granted⟩
    exact ⟨_, grantees, grouped, _, grants, listed, _, granted, rfl⟩

end Acl.Grants

end SystemCatalog
