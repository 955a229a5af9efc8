import Mathlib.Data.List.Nodup
import SystemCatalog.Proofs.Sorting.Merge
import SystemCatalog.Proofs.Sorting.Stable
import SystemCatalog.Proofs.Version.Order
import SystemCatalog.Version.Brackets

/-!
# Selection by brackets

A table of strategies is made of rows with distinct thresholds, in whatever order they come, and
selects by the greatest threshold that a version reaches: `ofRows_selects`.
-/

namespace SystemCatalog.Version

/-- What a caller gives for a version, with the version that it is and its triple. -/
structure Exact where
  given : Given
  version : Version
  triple : Triple
  resolves : given.resolve = .ok version
  reads : version.triple? = some triple

def Exact.ofInts (major minor patch : Int) : Exact where
  given := .version (.ofInts major minor patch)
  version := .ofInts major minor patch
  triple := .of major minor patch
  resolves := rfl
  reads := rfl

namespace Brackets

variable {α : Type}

def givenRows (rows : List (Exact × α)) : List (Given × Option α) :=
  rows.map fun row => (row.1.given, some row.2)

def resolvedRows (rows : List (Exact × α)) : List (Version × Option α) :=
  rows.map fun row => (row.1.version, some row.2)

def triples (rows : List (Exact × α)) : List Triple := rows.map (·.1.triple)

def ascending (rows : List (Exact × α)) : List (Exact × α) :=
  rows.mergeSort fun row other => row.1.triple ≤ other.1.triple

variable {rows : List (Exact × α)}

/-! ### Making a table -/

theorem mapM_givenRows (rows : List (Exact × α)) :
    ((givenRows rows).mapM fun (given, strategy) => do return (← given.resolve, strategy)) =
      .ok (resolvedRows rows) := by
  induction rows with
  | nil => rfl
  | cons row rest ih =>
    simp only [givenRows, List.map_cons, List.mapM_cons, row.1.resolves] at ih ⊢
    rw [ih]
    rfl

/-- The triple by which a row is sorted; rows that come from triples have one. -/
def rank (row : Version × Option α) : Triple := row.1.triple?.getD (.of 0 0 0)

theorem compares_rank : Sorting.Compares
    (fun row other : Version × Option α => row.1.before other.1)
    (fun row => row.1.triple?.isSome) rank := by
  intro row other has has'
  obtain ⟨x, reads⟩ := Option.isSome_iff_exists.mp has
  obtain ⟨y, reads'⟩ := Option.isSome_iff_exists.mp has'
  simp [rank, reads, reads', before_of_triple? reads reads']

theorem map_rank_resolvedRows (rows : List (Exact × α)) :
    (resolvedRows rows).map rank = triples rows := by
  simp [resolvedRows, triples, rank, Exact.reads]

theorem isSome_of_mem_resolvedRows {row : Version × Option α} (mem : row ∈ resolvedRows rows) :
    row.1.triple?.isSome := by
  obtain ⟨given, -, rfl⟩ := List.mem_map.mp mem
  simp [given.1.reads]

theorem sortRows_ordered (rows : List (Exact × α)) :
    ∃ result, sortRows (resolvedRows rows) = .ok result ∧ result.Perm (resolvedRows rows) ∧
      result.Pairwise fun row other => rank row ≤ rank other := by
  obtain ⟨result, sorted, ordered⟩ := Sorting.sort_ordered compares_rank fun row mem =>
    isSome_of_mem_resolvedRows mem
  exact ⟨result, sorted, sortRows_perm sorted, ordered.ascending⟩

theorem ascending_perm (rows : List (Exact × α)) : (ascending rows).Perm rows :=
  List.mergeSort_perm ..

theorem pairwise_ascending (rows : List (Exact × α)) :
    (ascending rows).Pairwise fun row other => row.1.triple ≤ other.1.triple :=
  Sorting.pairwise_mergeSort rows

theorem pairwise_rank_ascending (rows : List (Exact × α)) :
    (resolvedRows (ascending rows)).Pairwise fun row other => rank row ≤ rank other :=
  List.pairwise_map.mpr ((pairwise_ascending rows).imp fun le => by simpa [rank, Exact.reads])

theorem eq_ascending {result : List (Version × Option α)} (distinct : (triples rows).Nodup)
    (perm : result.Perm (resolvedRows rows))
    (ordered : result.Pairwise fun row other => rank row ≤ rank other) :
    result = resolvedRows (ascending rows) := by
  have perm' : (resolvedRows (ascending rows)).Perm (resolvedRows rows) :=
    (ascending_perm rows).map _
  -- Rows of the same rank are the same row, so that two orders of them cannot differ.
  rw [← map_rank_resolvedRows] at distinct
  refine (perm.trans perm'.symm).eq_of_pairwise (fun a b memA memB le ge => ?_) ordered
    (pairwise_rank_ascending rows)
  exact List.inj_on_of_nodup_map distinct (perm.mem_iff.mp memA) (perm'.mem_iff.mp memB)
    (le_antisymm le ge)

theorem repeats_eq_false_iff {rows : List (Version × Option α)}
    (whole : ∀ row ∈ rows, row.1.triple?.isSome) :
    repeats (rows.map (·.1)) = false ↔ (rows.map rank).Nodup := by
  induction rows with
  | nil => simp [repeats]
  | cons row rest ih =>
    have step : ∀ other ∈ rest, row.1.same other.1 = decide (rank row = rank other) := by
      intro other mem
      obtain ⟨x, reads⟩ := Option.isSome_iff_exists.mp (whole row List.mem_cons_self)
      obtain ⟨y, reads'⟩ := Option.isSome_iff_exists.mp (whole other (List.mem_cons_of_mem _ mem))
      simp [rank, reads, reads', same_of_triple? reads reads']
    simp only [List.map_cons, repeats, Bool.or_eq_false_iff, List.nodup_cons,
      ih fun other mem => whole other (List.mem_cons_of_mem _ mem)]
    refine and_congr_left' ?_
    simp only [List.any_map, List.any_eq_false, Function.comp, List.mem_map, not_exists, not_and]
    exact forall₂_congr fun other mem => by simp [step other mem, eq_comm]

theorem ofRows_eq (name : String) (nonempty : rows ≠ []) :
    ∃ result, result.Perm (resolvedRows rows) ∧
      (result.Pairwise fun row other => rank row ≤ rank other) ∧
      ofRows name (givenRows rows) =
        if (triples rows).Nodup then .ok ⟨name, result⟩ else .error (.repeatedThreshold name) := by
  obtain ⟨result, sorted, perm, ordered⟩ := sortRows_ordered rows
  have whole : ∀ row ∈ result, row.1.triple?.isSome :=
    fun row mem => isSome_of_mem_resolvedRows (perm.mem_iff.mp mem)
  have keys : (result.map (·.1)).all (fun v => v.parts.all Datum.isKey) = true := by
    simp only [List.all_map, List.all_eq_true, Function.comp]
    intro row mem
    obtain ⟨x, reads⟩ := Option.isSome_iff_exists.mp (whole row mem)
    simpa using isKey_of_triple? reads
  have distinct : repeats (result.map (·.1)) = false ↔ (triples rows).Nodup := by
    rw [repeats_eq_false_iff whole, (perm.map rank).nodup_iff, map_rank_resolvedRows]
  refine ⟨result, perm, ordered, ?_⟩
  have filled : (givenRows rows).isEmpty = false := by simpa [givenRows] using nonempty
  unfold ofRows
  rw [mapM_givenRows]
  simp only [filled, sorted, keys, bind, Except.bind, pure, Except.pure]
  by_cases nodup : (triples rows).Nodup
  · simp [nodup, distinct.mpr nodup]
  · have : repeats (result.map (·.1)) = true := by simpa [nodup] using distinct
    simp [nodup, this, throw, throwThe, MonadExceptOf.throw]

theorem ofRows_ok (name : String) (nonempty : rows ≠ []) (distinct : (triples rows).Nodup) :
    ofRows name (givenRows rows) = .ok ⟨name, resolvedRows (ascending rows)⟩ := by
  obtain ⟨result, perm, ordered, made⟩ := ofRows_eq name nonempty
  rw [made, if_pos distinct, eq_ascending distinct perm ordered]

/-! ### Selecting -/

/-- The rows at the front whose thresholds a version reaches. -/
def reached (v : Exact) (rows : List (Exact × α)) : List (Exact × α) :=
  rows.takeWhile fun row => row.1.triple ≤ v.triple

theorem selectFrom_resolvedRows (v : Exact) (chosen : Option α) (rows : List (Exact × α)) :
    selectFrom v.version chosen (resolvedRows rows) =
      .ok (((reached v rows).getLast?.map (·.2)).or chosen) := by
  induction rows generalizing chosen with
  | nil => rfl
  | cons row rest ih =>
    have decides := atLeast_of_triple? v.reads row.1.reads
    simp only [resolvedRows, List.map_cons, selectFrom, decides, bind, Except.bind] at ih ⊢
    by_cases there : row.1.triple ≤ v.triple
    · simp only [there, decide_true, if_true, ih, reached, List.takeWhile_cons, List.getLast?_cons]
      cases (rest.takeWhile fun row => decide (row.1.triple ≤ v.triple)).getLast? <;> rfl
    · simp [there, reached]

def selectGiven (b : Brackets α) (given : Given) : Except Fault α := do
  b.select (← given.resolve)

theorem selectGiven_resolvedRows (name : String) (v : Exact) (rows : List (Exact × α)) :
    selectGiven ⟨name, resolvedRows rows⟩ v.given =
      match (reached v rows).getLast? with
      | some row => .ok row.2
      | none => .error (.belowBrackets v.version.text name) := by
  simp only [selectGiven, v.resolves, select, selectFrom_resolvedRows, bind, Except.bind]
  cases (reached v rows).getLast? <;> rfl

/-- Whether a version lies in the bracket at a place of the table, which has a strategy: it reaches
the threshold there, and not the next one. -/
def Holds (b : Brackets α) (place : Nat) (strategy : α) (v : Version) : Prop :=
  (∃ threshold, b.rows[place]? = some (threshold, some strategy) ∧
    v.atLeast threshold = .ok true) ∧
  ∀ next ∈ b.thresholds[place + 1]?, v.atLeast next = .ok false

theorem exists_of_lt_length_reached {v : Exact} {place : Nat}
    (inside : place < (reached v rows).length) : ∃ row, rows[place]? = some row := by
  have short : (reached v rows).length ≤ rows.length := (List.takeWhile_sublist _).length_le
  exact ⟨_, List.getElem?_eq_getElem (by omega)⟩

theorem getLast?_reached_iff {v : Exact} {row : Exact × α} :
    (reached v rows).getLast? = some row ↔
      ∃ place, (reached v rows).length = place + 1 ∧ rows[place]? = some row := by
  have front : (reached v rows) = rows.take (reached v rows).length :=
    List.prefix_iff_eq_take.mp (List.takeWhile_prefix _)
  have same : ∀ place, (reached v rows).length = place + 1 →
      (reached v rows).getLast? = rows[place]? := by
    intro place long
    rw [List.getLast?_eq_getElem?, long]
    conv => lhs; rw [front]
    exact List.getElem?_take_of_lt (by omega)
  constructor
  · intro last
    have any : (reached v rows).length ≠ 0 := by
      intro none
      simp [List.eq_nil_of_length_eq_zero none] at last
    obtain ⟨place, long⟩ := Nat.exists_eq_succ_of_ne_zero any
    exact ⟨place, long, (same place long).symm.trans last⟩
  · rintro ⟨place, long, stands⟩
    exact (same place long).trans stands

section Ordered

variable (ordered : rows.Pairwise fun row other => row.1.triple < other.1.triple)
include ordered

theorem lt_length_reached_iff (v : Exact) {place : Nat} {row : Exact × α}
    (stands : rows[place]? = some row) :
    place < (reached v rows).length ↔ row.1.triple ≤ v.triple := by
  have together : rows.Pairwise fun a b =>
      decide (b.1.triple ≤ v.triple) = true → decide (a.1.triple ≤ v.triple) = true :=
    ordered.imp fun lt there => by
      simp only [decide_eq_true_eq] at there ⊢
      exact lt.le.trans there
  simpa [reached] using Sorting.lt_length_takeWhile_iff together stands

theorem reached_eq_nil_iff {v : Exact} :
    reached v rows = [] ↔ ∀ row ∈ rows, v.triple < row.1.triple := by
  rw [← List.length_eq_zero_iff]
  constructor
  · intro none row mem
    obtain ⟨place, stands⟩ := List.getElem?_of_mem mem
    have := (lt_length_reached_iff ordered v stands).not.mp (by omega)
    exact not_le.mp this
  · intro below
    by_contra any
    obtain ⟨row, stands⟩ := exists_of_lt_length_reached (show 0 < (reached v rows).length by omega)
    have there := (lt_length_reached_iff ordered v stands).mp (by omega)
    exact (below row (List.mem_of_getElem? stands)).not_ge there

theorem triple_le_of_places {place place' : Nat} {row other : Exact × α}
    (stands : rows[place]? = some row) (stands' : rows[place']? = some other) :
    row.1.triple ≤ other.1.triple ↔ place ≤ place' := by
  obtain ⟨inside, rfl⟩ := List.getElem?_eq_some_iff.mp stands
  obtain ⟨inside', rfl⟩ := List.getElem?_eq_some_iff.mp stands'
  have apart := List.pairwise_iff_getElem.mp ordered
  constructor
  · intro le
    by_contra behind
    exact (apart place' place inside' inside (by omega)).not_ge le
  · intro le
    rcases Nat.lt_or_eq_of_le le with lt | rfl
    · exact (apart place place' inside inside' lt).le
    · exact le_rfl

/-- The last row that is reached is the one with the greatest threshold. -/
theorem getLast?_reached_iff_greatest {v : Exact} {row : Exact × α} :
    (reached v rows).getLast? = some row ↔ row ∈ rows ∧ row.1.triple ≤ v.triple ∧
      ∀ other ∈ rows, other.1.triple ≤ v.triple → other.1.triple ≤ row.1.triple := by
  rw [getLast?_reached_iff]
  constructor
  · rintro ⟨place, long, stands⟩
    refine ⟨List.mem_of_getElem? stands, (lt_length_reached_iff ordered v stands).mp (by omega),
      fun other mem there => ?_⟩
    obtain ⟨place', stands'⟩ := List.getElem?_of_mem mem
    have := (lt_length_reached_iff ordered v stands').mpr there
    exact (triple_le_of_places ordered stands' stands).mpr (by omega)
  · rintro ⟨mem, there, greatest⟩
    obtain ⟨place, stands⟩ := List.getElem?_of_mem mem
    have inside := (lt_length_reached_iff ordered v stands).mpr there
    refine ⟨place, ?_, stands⟩
    -- A further row that is reached would have a greater threshold.
    by_contra more
    obtain ⟨next, stands'⟩ :=
      exists_of_lt_length_reached (show place + 1 < (reached v rows).length by omega)
    have there' := (lt_length_reached_iff ordered v stands').mp (by omega)
    have := (triple_le_of_places ordered stands' stands).mp
      (greatest next (List.mem_of_getElem? stands') there')
    omega

theorem holds_iff {name : String} {v : Exact} {place : Nat} {s : α} :
    Holds ⟨name, resolvedRows rows⟩ place s v.version ↔
      ∃ row, rows[place]? = some row ∧ row.2 = s ∧ (reached v rows).length = place + 1 := by
  have atLeast (row : Exact × α) := atLeast_of_triple? v.reads row.1.reads
  constructor
  · rintro ⟨⟨threshold, listed, there⟩, beyond⟩
    obtain ⟨row, stands, same⟩ : ∃ row, rows[place]? = some row ∧
        (row.1.version, some row.2) = (threshold, some s) := by
      simpa [resolvedRows] using listed
    obtain ⟨rfl, rfl⟩ : row.1.version = threshold ∧ row.2 = s := by simpa using same
    have inside := (lt_length_reached_iff ordered v stands).mpr (by simpa [atLeast] using there)
    refine ⟨row, stands, rfl, ?_⟩
    by_contra more
    obtain ⟨next, stands'⟩ :=
      exists_of_lt_length_reached (show place + 1 < (reached v rows).length by omega)
    have there' := (lt_length_reached_iff ordered v stands').mp (by omega)
    have := beyond next.1.version (by simp [thresholds, resolvedRows, stands'])
    simp [atLeast, there'] at this
  · rintro ⟨row, stands, rfl, long⟩
    have there := (lt_length_reached_iff ordered v stands).mp (by omega)
    refine ⟨⟨row.1.version, by simp [resolvedRows, stands], by simp [atLeast, there]⟩,
      fun next mem => ?_⟩
    obtain ⟨next, stands', rfl⟩ : ∃ row, rows[place + 1]? = some row ∧ row.1.version = next := by
      simpa [thresholds, resolvedRows] using mem
    have beyond := (lt_length_reached_iff ordered v stands').not.mp (by omega)
    simpa [atLeast] using beyond

end Ordered

/-! ### What a table is to its callers -/

/-- Whether a table selects among the rows by their thresholds: the strategy of the greatest one
that a version reaches, and that of the bracket which the version lies in. -/
structure SelectsAmong (b : Brackets α) (rows : List (Exact × α)) : Prop where
  thresholds : b.thresholds.Perm (rows.map (·.1.version))
  ascending : b.thresholds.Pairwise fun v w => v.before w = .ok true
  greatest : ∀ (v : Exact) (s : α), b.selectGiven v.given = .ok s ↔
    ∃ row ∈ rows, row.2 = s ∧ row.1.triple ≤ v.triple ∧
      ∀ other ∈ rows, other.1.triple ≤ v.triple → other.1.triple ≤ row.1.triple
  below : ∀ v : Exact, (∃ fault, b.selectGiven v.given = .error fault ∧
    fault.family = .unavailable) ↔ ∀ row ∈ rows, v.triple < row.1.triple
  bracket : ∀ (v : Exact) (s : α), b.selectGiven v.given = .ok s ↔
    ∃ place, b.Holds place s v.version
  forward : ∀ (v w : Exact) (place place' : Nat) (s t : α), v.triple ≤ w.triple →
    b.Holds place s v.version → b.Holds place' t w.version → place ≤ place'

theorem selectGiven_eq_ok_iff {name : String} {v : Exact} {s : α} :
    selectGiven ⟨name, resolvedRows rows⟩ v.given = .ok s ↔
      ∃ row, (reached v rows).getLast? = some row ∧ row.2 = s := by
  rw [selectGiven_resolvedRows]
  cases (reached v rows).getLast? <;> simp

theorem selectGiven_unavailable_iff {name : String} {v : Exact} :
    (∃ fault, selectGiven ⟨name, resolvedRows rows⟩ v.given = .error fault ∧
      fault.family = .unavailable) ↔ reached v rows = [] := by
  rw [selectGiven_resolvedRows, ← List.getLast?_eq_none_iff]
  cases (reached v rows).getLast? <;> simp [Fault.family]

theorem selectsAmong_ascending (name : String) (distinct : (triples rows).Nodup) :
    SelectsAmong ⟨name, resolvedRows (ascending rows)⟩ rows := by
  have perm := ascending_perm rows
  have ordered : (ascending rows).Pairwise fun row other => row.1.triple < other.1.triple := by
    have apart : (triples (ascending rows)).Nodup := (perm.map _).nodup_iff.mpr distinct
    exact ((pairwise_ascending rows).and (List.pairwise_map.mp apart)).imp
      fun ⟨le, ne⟩ => lt_of_le_of_ne le ne
  constructor
  case thresholds =>
    simpa [Brackets.thresholds, resolvedRows, Function.comp_def] using perm.map (·.1.version)
  case ascending =>
    simp only [Brackets.thresholds, resolvedRows, List.map_map, List.pairwise_map]
    exact ordered.imp fun lt => by simp [before_of_triple? (Exact.reads _) (Exact.reads _), lt]
  case greatest =>
    intro v s
    rw [selectGiven_eq_ok_iff]
    simp only [getLast?_reached_iff_greatest ordered, perm.mem_iff]
    tauto
  case below =>
    intro v
    simp only [selectGiven_unavailable_iff, reached_eq_nil_iff ordered, perm.mem_iff]
  case bracket =>
    intro v s
    rw [selectGiven_eq_ok_iff]
    simp only [getLast?_reached_iff, holds_iff ordered]
    tauto
  case forward =>
    intro v w place place' s t le holds holds'
    obtain ⟨row, stands, -, long⟩ := (holds_iff ordered).mp holds
    obtain ⟨-, -, -, long'⟩ := (holds_iff ordered).mp holds'
    have there := (lt_length_reached_iff ordered v stands).mp (by omega)
    have := (lt_length_reached_iff ordered w stands).mpr (there.trans le)
    omega

theorem ofRows_repeated (name : String) (nonempty : rows ≠ []) (repeated : ¬(triples rows).Nodup) :
    ofRows name (givenRows rows) = .error (.repeatedThreshold name) := by
  obtain ⟨result, -, -, made⟩ := ofRows_eq name nonempty
  rw [made, if_neg repeated]

theorem resolvedRows_ascending_perm {rows' : List (Exact × α)} (perm : rows.Perm rows')
    (distinct : (triples rows).Nodup) :
    resolvedRows (ascending rows') = resolvedRows (ascending rows) := by
  refine eq_ascending distinct (((ascending_perm rows').trans perm.symm).map _) ?_
  exact pairwise_rank_ascending rows'

/-- Rows make a table unless there are none or two have the same threshold, and then the table
selects among them; their order does not matter.  As in every `Datum`, integers are taken to have at
most 4300 digits: with a longer one, the message that names a version below all brackets cannot be
written. -/
theorem ofRows_selects (name : String) (rows : List (Exact × α)) :
    ((∃ fault, ofRows name (givenRows rows) = .error fault ∧ fault.family = .value) ↔
      rows = [] ∨ ¬(triples rows).Nodup) ∧
    ((∃ b, ofRows name (givenRows rows) = .ok b ∧ b.SelectsAmong rows) ↔
      rows ≠ [] ∧ (triples rows).Nodup) ∧
    ∀ rows', rows.Perm rows' → ofRows name (givenRows rows') = ofRows name (givenRows rows) := by
  by_cases empty : rows = []
  case pos =>
    subst empty
    have refused : ofRows name (givenRows ([] : List (Exact × α))) =
      .error (.emptyBrackets name) := rfl
    refine ⟨by simp [refused, Fault.family], by simp [refused], fun rows' perm => ?_⟩
    rw [perm.nil_eq]
  by_cases distinct : (triples rows).Nodup
  case pos =>
    have made := ofRows_ok name empty distinct
    refine ⟨by simp [made, empty, distinct],
      by simpa [made, empty, distinct] using selectsAmong_ascending name distinct,
      fun rows' perm => ?_⟩
    have empty' : rows' ≠ [] := fun none => empty (none ▸ perm).eq_nil
    have distinct' : (triples rows').Nodup := (perm.map _).nodup_iff.mp distinct
    rw [made, ofRows_ok name empty' distinct', resolvedRows_ascending_perm perm distinct]
  case neg =>
    have refused := ofRows_repeated name empty distinct
    refine ⟨by simp [refused, distinct, Fault.family], by simp [refused, distinct],
      fun rows' perm => ?_⟩
    have empty' : rows' ≠ [] := fun none => empty (none ▸ perm).eq_nil
    have distinct' : ¬(triples rows').Nodup := (perm.map _).nodup_iff.not.mp distinct
    rw [refused, ofRows_repeated name empty' distinct']

theorem ofRows_selects_shuffled :
    (∃ b, ofRows "demo" (givenRows [(.ofInts 2 0 0, "b"), (.ofInts 0 0 0, "a")]) = .ok b ∧
      b.SelectsAmong [(.ofInts 2 0 0, "b"), (.ofInts 0 0 0, "a")]) ∧
    ofRows "demo" (givenRows [(.ofInts 0 0 0, "a"), (.ofInts 2 0 0, "b")]) =
      ofRows "demo" (givenRows [(.ofInts 2 0 0, "b"), (.ofInts 0 0 0, "a")]) ∧
    ∃ fault, ofRows "dupes" (givenRows
      [(⟨.value (.text "1.0"), .ofInts 1 0 0, .of 1 0 0, rfl, rfl⟩, "a"),
        (⟨.value (.text "1.0.0"), .ofInts 1 0 0, .of 1 0 0, rfl, rfl⟩, "b")]) = .error fault ∧
      fault.family = .value := by
  have apart := ofRows_selects "demo" [(.ofInts 2 0 0, "b"), (.ofInts 0 0 0, "a")]
  refine ⟨apart.2.1.mpr ⟨by simp, by decide⟩, apart.2.2 _ (.swap _ _ _), ?_⟩
  exact (ofRows_selects "dupes" [(⟨.value (.text "1.0"), .ofInts 1 0 0, .of 1 0 0, rfl, rfl⟩, "a"),
    (⟨.value (.text "1.0.0"), .ofInts 1 0 0, .of 1 0 0, rfl, rfl⟩, "b")]).1.mpr
      (.inr (by decide))

end Brackets

end SystemCatalog.Version
