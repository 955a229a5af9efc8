import Mathlib.Data.Prod.Lex
import Mathlib.Data.String.Basic
import SystemCatalog.Acl.Grants
import SystemCatalog.Proofs.Assoc.Group
import SystemCatalog.Proofs.Sorting.Stable

/-!
# Regrouped privileges

The entries of an access list grant privileges one after the other.  The table holds these grants by
privilege and grantee, and the reported rows are the same grants, sorted by the two; grants of one
privilege to one grantee stand in the order of the entries: `rows_eq_mergeSort`.
-/

namespace SystemCatalog.Acl

structure Granted where
  privilege : Privilege
  grantee : String
  grant : Grant

theorem Privilege.find?_name (p : Privilege) : all.find? (·.name == p.name) = some p := by
  cases p <;> decide

theorem Privilege.name_injective {p q : Privilege} (same : p.name = q.name) : p = q := by
  have found := p.find?_name
  rw [same, q.find?_name] at found
  exact (Option.some.inj found).symm

namespace Granted

/-- The place of a granted privilege in a report: by the name of the privilege, and then by the
grantee. -/
def place (x : Granted) : String ×ₗ String := toLex (x.privilege.name, x.grantee)

def row (catalog schema : Option String) (table : String) (x : Granted) : Grants.Row :=
  ⟨catalog, schema, table, x.grant.grantor, x.grantee, x.privilege, x.grant.grantable⟩

end Granted

/-- The privileges that an entry grants, in the order of its letters. -/
def Entry.granted (e : Entry) : List Granted :=
  e.privileges.map fun (privilege, grantable) => ⟨privilege, e.grantee, ⟨e.grantor, grantable⟩⟩

namespace Grants

def granted (g : Grants) : List Granted := g.entries.flatMap Entry.granted

def byGrantee (items : List Granted) : List (String × List Grant) :=
  Assoc.group Granted.grantee (List.map Granted.grant) items

def byPrivilege (items : List Granted) : Table :=
  Assoc.group Granted.privilege byGrantee items

/-! ### The table -/

theorem byGrantee_concat (items : List Granted) (x : Granted) :
    byGrantee (items ++ [x]) =
      Assoc.update x.grantee (fun grants => grants.getD [] ++ [x.grant]) (byGrantee items) :=
  Assoc.group_concat Granted.grantee (by rfl) (by simp) items

theorem byPrivilege_concat (items : List Granted) (x : Granted) :
    byPrivilege (items ++ [x]) = (byPrivilege items).insert x.privilege x.grantee x.grant :=
  Assoc.group_concat Granted.privilege (byGrantee_concat [] x).symm
    (fun items => (byGrantee_concat items x).symm) items

theorem insertEntry_byPrivilege (items : List Granted) (e : Entry) :
    (byPrivilege items).insertEntry e = byPrivilege (items ++ e.granted) := by
  have run : ∀ (privileges : List (Privilege × Bool)) (items : List Granted),
      privileges.foldl (fun t (privilege, grantable) =>
          Table.insert t privilege e.grantee ⟨e.grantor, grantable⟩) (byPrivilege items) =
        byPrivilege (items ++ privileges.map fun (privilege, grantable) =>
          ⟨privilege, e.grantee, ⟨e.grantor, grantable⟩⟩) := by
    intro privileges
    induction privileges with
    | nil => simp
    | cons first rest ih =>
      intro items
      rw [List.foldl_cons, List.map_cons, List.append_cons, ← ih, byPrivilege_concat]
  exact run e.privileges items

theorem table_eq (g : Grants) : g.table = byPrivilege g.granted := by
  have run : ∀ (entries : List Entry) (items : List Granted),
      entries.foldl Table.insertEntry (byPrivilege items) =
        byPrivilege (items ++ entries.flatMap Entry.granted) := by
    intro entries
    induction entries with
    | nil => simp
    | cons e rest ih =>
      intro items
      rw [List.foldl_cons, insertEntry_byPrivilege, ih, List.flatMap_cons, List.append_assoc]
  exact run g.entries []

/-! ### Grants in order -/

def grantsTo (privilege : Privilege) (entry : String × List Grant) : List Granted :=
  entry.2.map fun grant => ⟨privilege, entry.1, grant⟩

def grantsOf (entry : Privilege × List (String × List Grant)) : List Granted :=
  (sortOn (·.1) entry.2).flatMap (grantsTo entry.1)

/-- The grants of a table, in the order of the privileges' names and then of the grantees. -/
def inOrder (t : Table) : List Granted := (sortOn (·.1.name) t).flatMap grantsOf

theorem rows_eq_map (g : Grants) (catalog schema : Option String) (table : String) :
    g.rows catalog schema table = (inOrder g.table).map (Granted.row catalog schema table) := by
  simp only [inOrder, List.map_flatMap, grantsOf, grantsTo, List.map_map]
  rfl

theorem sortOn_perm {α : Type} (name : α → String) (items : List α) :
    (sortOn name items).Perm items :=
  List.mergeSort_perm items _

theorem privilege_of_mem {entry : Privilege × List (String × List Grant)} {x : Granted}
    (mem : x ∈ grantsOf entry) : x.privilege = entry.1 := by
  obtain ⟨grantees, -, inside⟩ := List.mem_flatMap.mp mem
  obtain ⟨grant, -, rfl⟩ := List.mem_map.mp inside
  rfl

theorem filter_grantsOf (privilege : Privilege) (items : List Granted) (grantee : String) :
    (grantsOf (privilege, byGrantee items)).filter (·.grantee == grantee) =
      (items.filter (·.grantee == grantee)).map fun x => ⟨privilege, grantee, x.grant⟩ := by
  have owned : ∀ entry, ∀ x ∈ grantsTo privilege entry, x.grantee = entry.1 := by simp [grantsTo]
  have chosen := Assoc.filter_flatMap_group (sortOn_perm (·.1) (byGrantee items)) owned
    (fun _ => rfl) grantee
  rw [grantsOf, chosen, grantsTo, List.map_map]
  rfl

theorem filter_inOrder (items : List Granted) (privilege : Privilege) :
    (inOrder (byPrivilege items)).filter (·.privilege == privilege) =
      grantsOf (privilege, byGrantee (items.filter (·.privilege == privilege))) := by
  apply Assoc.filter_flatMap_group (sortOn_perm (·.1.name) (byPrivilege items))
  · exact fun _ _ => privilege_of_mem
  · intro k
    simp [grantsOf, byGrantee, Assoc.group, sortOn]

theorem place_eq_iff {x y : Granted} :
    x.place = y.place ↔ x.privilege = y.privilege ∧ x.grantee = y.grantee := by
  rw [Granted.place, Granted.place, toLex_inj, Prod.mk.injEq]
  exact and_congr_left fun _ => ⟨Privilege.name_injective, congrArg Privilege.name⟩

/-- The grants of a privilege to a grantee stand in order as they do among all grants. -/
theorem filter_inOrder_place (items : List Granted) (x : Granted) :
    (inOrder (byPrivilege items)).filter (·.place = x.place) =
      items.filter (·.place = x.place) := by
  have both : ∀ l : List Granted, l.filter (·.place = x.place) =
      (l.filter (·.privilege == x.privilege)).filter (·.grantee == x.grantee) := by
    intro l
    rw [List.filter_filter]
    apply List.filter_congr
    intro y _
    simp [place_eq_iff, Bool.and_comm, Bool.beq_eq_decide_eq]
  rw [both, filter_inOrder, filter_grantsOf, both]
  conv => rhs; rw [← List.map_id ((items.filter _).filter _)]
  apply List.map_congr_left
  intro y mem
  obtain ⟨mem, grantee⟩ := List.mem_filter.mp mem
  obtain ⟨-, privilege⟩ := List.mem_filter.mp mem
  rw [← eq_of_beq grantee, ← eq_of_beq privilege]
  rfl

theorem pairwise_sortOn {α : Type} (name : α → String) (items : List α) :
    (sortOn name items).Pairwise (name · ≤ name ·) :=
  Sorting.pairwise_mergeSort items

theorem pairwise_grantsOf (entry : Privilege × List (String × List Grant)) :
    (grantsOf entry).Pairwise (·.place ≤ ·.place) := by
  rw [grantsOf, List.pairwise_flatMap]
  constructor
  · intro grantees _
    rw [grantsTo, List.pairwise_map]
    exact List.pairwise_of_forall fun _ _ => le_refl _
  · apply (pairwise_sortOn _ _).imp
    intro first second order x mem y mem'
    obtain ⟨grant, -, rfl⟩ := List.mem_map.mp mem
    obtain ⟨grant', -, rfl⟩ := List.mem_map.mp mem'
    exact Prod.Lex.toLex_le_toLex.mpr (Or.inr ⟨rfl, order⟩)

theorem pairwise_inOrder (items : List Granted) :
    (inOrder (byPrivilege items)).Pairwise (·.place ≤ ·.place) := by
  rw [inOrder, List.pairwise_flatMap]
  refine ⟨fun entry _ => pairwise_grantsOf entry, ?_⟩
  have distinct : (sortOn (·.1.name) (byPrivilege items)).Pairwise fun a b => a.1 ≠ b.1 := by
    have keys := (sortOn_perm (·.1.name) (byPrivilege items)).map (·.1)
    exact List.pairwise_map.mp (keys.nodup_iff.mpr (Assoc.nodup_keys_group _ _ _))
  apply ((pairwise_sortOn _ _).and distinct).imp
  rintro first second ⟨order, other⟩ x mem y mem'
  apply le_of_lt
  apply Prod.Lex.toLex_lt_toLex.mpr
  left
  rw [privilege_of_mem mem, privilege_of_mem mem']
  exact lt_of_le_of_ne order fun same => other (Privilege.name_injective same)

/-- The table of an access list has the privileges and, under each, the grantees in the order in
which they first occur, with their grants in the order of the entries.  The rows are the grants of
the entries, sorted by the name of the privilege and the grantee; grants that agree in both keep
their order. -/
theorem rows_eq_mergeSort (g : Grants) (catalog schema : Option String) (table : String) :
    g.table = byPrivilege g.granted ∧
      g.rows catalog schema table =
        (g.granted.mergeSort fun x y => x.place ≤ y.place).map
          (Granted.row catalog schema table) := by
  refine ⟨table_eq g, ?_⟩
  -- The sorted list is the one in order that keeps the order of grants in the same place.
  rw [rows_eq_map, table_eq, Sorting.eq_mergeSort_of_filter (pairwise_inOrder g.granted)
    (filter_inOrder_place g.granted)]

end Grants

end SystemCatalog.Acl
