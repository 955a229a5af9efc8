import Mathlib.Order.Lattice
import SystemCatalog.Sorting

/-!
# Runs in order

Rows are compared by a rank.  A galloping search finds the number of rows at one end that pass a
test, inserting a row keeps rows in order, and every run is in order: `runs_ordered`.
-/

namespace SystemCatalog.Sorting

variable {α ε κ : Type} [LinearOrder κ]

/-- Whether comparing rows with a property tells which of them has the lower rank. -/
def Compares (before : α → α → Except ε Bool) (P : α → Prop) (rank : α → κ) : Prop :=
  ∀ a b, P a → P b → before a b = .ok (decide (rank a < rank b))

/-- Whether rows have a property and stand in the order of their ranks. -/
structure Ordered (P : α → Prop) (rank : α → κ) (rows : List α) : Prop where
  fits : ∀ row ∈ rows, P row
  ascending : rows.Pairwise (rank · ≤ rank ·)

variable {before : α → α → Except ε Bool} {P : α → Prop} {rank : α → κ}

namespace Ordered

variable {row : α} {rows front back : List α}

theorem nil : Ordered P rank [] := ⟨by simp, .nil⟩

theorem singleton (fits : P row) : Ordered P rank [row] := ⟨by simpa using fits, by simp⟩

theorem append_iff : Ordered P rank (front ++ back) ↔
    Ordered P rank front ∧ Ordered P rank back ∧
      ∀ a ∈ front, ∀ b ∈ back, rank a ≤ rank b := by
  constructor
  · rintro ⟨fits, ascending⟩
    rw [List.pairwise_append] at ascending
    exact ⟨⟨fun row mem => fits row (List.mem_append_left _ mem), ascending.1⟩,
      ⟨fun row mem => fits row (List.mem_append_right _ mem), ascending.2.1⟩, ascending.2.2⟩
  · rintro ⟨first, second, across⟩
    refine ⟨fun row mem => ?_, List.pairwise_append.mpr ⟨first.ascending, second.ascending, across⟩⟩
    exact (List.mem_append.mp mem).elim (first.fits row) (second.fits row)

theorem cons_iff : Ordered P rank (row :: rows) ↔
    P row ∧ (∀ other ∈ rows, rank row ≤ rank other) ∧ Ordered P rank rows := by
  constructor
  · rintro ⟨fits, ascending⟩
    rw [List.pairwise_cons] at ascending
    exact ⟨fits row List.mem_cons_self, ascending.1,
      fun other mem => fits other (List.mem_cons_of_mem _ mem), ascending.2⟩
  · rintro ⟨fits, lowest, rest⟩
    refine ⟨fun other mem => ?_, List.pairwise_cons.mpr ⟨lowest, rest.ascending⟩⟩
    rcases List.mem_cons.mp mem with rfl | later
    · exact fits
    · exact rest.fits other later

theorem around (first : Ordered P rank front) (fits : P row) (second : Ordered P rank back)
    (below : ∀ a ∈ front, rank a ≤ rank row) (above : ∀ b ∈ back, rank row ≤ rank b) :
    Ordered P rank (front ++ row :: back) := by
  refine append_iff.mpr ⟨first, cons_iff.mpr ⟨fits, above, second⟩, fun a mem b mem' => ?_⟩
  rcases List.mem_cons.mp mem' with rfl | mem'
  · exact below a mem
  · exact (below a mem).trans (above b mem')

theorem take (ordered : Ordered P rank rows) (n : Nat) : Ordered P rank (rows.take n) :=
  ⟨fun row mem => ordered.fits row (List.mem_of_mem_take mem), ordered.ascending.take⟩

theorem drop (ordered : Ordered P rank rows) (n : Nat) : Ordered P rank (rows.drop n) :=
  ⟨fun row mem => ordered.fits row (List.mem_of_mem_drop mem), ordered.ascending.drop⟩

theorem take_le_drop (ordered : Ordered P rank rows) (n : Nat) :
    ∀ a ∈ rows.take n, ∀ b ∈ rows.drop n, rank a ≤ rank b :=
  (append_iff.mp (by rwa [List.take_append_drop])).2.2

theorem le_getLast? {last : α} (ordered : Ordered P rank rows) (ends : rows.getLast? = some last) :
    ∀ row ∈ rows, rank row ≤ rank last := by
  obtain ⟨front, rfl⟩ := List.getLast?_eq_some_iff.mp ends
  obtain ⟨-, -, across⟩ := append_iff.mp ordered
  intro row mem
  rcases List.mem_append.mp mem with mem | mem
  · exact across row mem last List.mem_cons_self
  · exact (congrArg rank (List.mem_singleton.mp mem)).le

end Ordered

/-! ### Galloping -/

theorem stride_ok {test : Nat → Except ε Bool} {n size low high : Nat}
    (answers : ∀ i, test i = .ok (decide (i < n))) (above : low ≤ n) (below : n ≤ size) :
    ∃ range, stride test size low high = .ok range ∧ range.1 ≤ n ∧ n ≤ range.2 := by
  fun_induction stride test size low high with
  | case1 low high inside ih =>
    rw [answers]
    by_cases passes : high < n
    · simpa [passes, bind, Except.bind] using ih passes
    · exact ⟨(low, high), by simp [passes, bind, Except.bind, pure, Except.pure], above, by omega⟩
  | case2 low high outside => exact ⟨(low, size), rfl, above, below⟩

theorem halve_ok {side : Side} {test : Nat → Except ε Bool} {n low high : Nat}
    (answers : ∀ i, test i = .ok (decide (i < n))) (above : low ≤ n) (below : n ≤ high) :
    halve side test low high = .ok n := by
  fun_induction halve side test low high with
  | case1 low high inside middle ih₁ ih₂ =>
    rw [answers]
    by_cases passes : middle < n
    · simpa [passes, bind, Except.bind] using ih₁ (by omega) below
    · simpa [passes, bind, Except.bind] using ih₂ above (by omega)
  | case2 low high outside =>
    obtain rfl : high = n := by omega
    rfl

theorem lt_length_takeWhile_iff {q : α → Bool} {rows : List α}
    (together : rows.Pairwise fun a b => q b → q a) {i : Nat} {row : α}
    (stands : rows[i]? = some row) : i < (rows.takeWhile q).length ↔ q row := by
  induction rows generalizing i with
  | nil => simp at stands
  | cons first rest ih =>
    rw [List.pairwise_cons] at together
    by_cases passes : q first
    · cases i with
      | zero =>
        obtain rfl : first = row := by simpa using stands
        simp [passes]
      | succ i => simpa [passes] using ih together.2 (by simpa using stands)
    · have fails : ¬q row := by
        rcases List.mem_cons.mp (List.mem_of_getElem? stands) with rfl | later
        · exact passes
        · exact fun other => passes (together.1 row later other)
      simp [passes, fails]

theorem gallop_ok (side : Side) {passes : α → Except ε Bool} {q : α → Bool} {rows : List α}
    (answers : ∀ row ∈ rows, passes row = .ok (q row))
    (together : rows.Pairwise fun a b => q b → q a) :
    ∃ count, gallop side passes rows = .ok count ∧ (∀ row ∈ rows.take count, q row) ∧
      ∀ row ∈ rows.drop count, ¬q row := by
  -- The test passes at the places before `n`, which both searches keep between their bounds.
  obtain ⟨n, size⟩ : ∃ n, (rows.takeWhile q).length = n := ⟨_, rfl⟩
  have inside : n ≤ rows.length := size ▸ (List.takeWhile_sublist q).length_le
  obtain ⟨test, gallops, answered⟩ : ∃ test,
      gallop side passes rows =
        (stride test rows.length 0 0 >>= fun range => halve side test range.1 range.2) ∧
      ∀ i, test i = .ok (decide (i < n)) := by
    refine ⟨_, rfl, fun i => ?_⟩
    split
    · next row stands =>
      rw [answers row (List.mem_of_getElem? stands)]
      simp only [← size, lt_length_takeWhile_iff together stands, Bool.decide_eq_true]
    · next outside =>
      have long : rows.length ≤ i := List.getElem?_eq_none_iff.mp outside
      simp only [Except.ok.injEq, Bool.false_eq, decide_eq_false_iff_not]
      omega
  refine ⟨n, ?_, fun row mem => ?_, fun row mem => ?_⟩
  · obtain ⟨range, found, above, below⟩ :=
      @stride_ok ε test n rows.length 0 0 answered (Nat.zero_le n) inside
    rw [gallops, found]
    exact halve_ok answered above below
  · obtain ⟨i, inside, rfl⟩ := List.mem_take_iff_getElem.mp mem
    exact (lt_length_takeWhile_iff together (List.getElem?_eq_getElem _)).mp (by omega)
  · obtain ⟨i, inside, rfl⟩ := List.mem_drop_iff_getElem.mp mem
    intro passes
    have := (lt_length_takeWhile_iff together (List.getElem?_eq_getElem _)).mpr passes
    omega

theorem gallop_reached (side : Side) (compares : Compares before P rank) {pivot : α} {rows : List α}
    (fits : P pivot) (ordered : Ordered P rank rows) :
    ∃ count, gallop side (fun row => (!·) <$> before pivot row) rows = .ok count ∧
      (∀ row ∈ rows.take count, rank row ≤ rank pivot) ∧
      ∀ row ∈ rows.drop count, rank pivot < rank row := by
  have answers : ∀ row ∈ rows, (!·) <$> before pivot row =
      .ok (!decide (rank pivot < rank row)) := by
    intro row mem
    rw [compares pivot row fits (ordered.fits row mem)]
    rfl
  have together : rows.Pairwise fun a b =>
      (!decide (rank pivot < rank b)) = true → (!decide (rank pivot < rank a)) = true :=
    ordered.ascending.imp fun le passes => by
      simp only [Bool.not_eq_true', decide_eq_false_iff_not, not_lt] at passes ⊢
      exact le.trans passes
  simpa using gallop_ok side answers together

theorem gallop_below (side : Side) (compares : Compares before P rank) {pivot : α} {rows : List α}
    (fits : P pivot) (ordered : Ordered P rank rows) :
    ∃ count, gallop side (fun row => before row pivot) rows = .ok count ∧
      (∀ row ∈ rows.take count, rank row < rank pivot) ∧
      ∀ row ∈ rows.drop count, rank pivot ≤ rank row := by
  have answers : ∀ row ∈ rows, before row pivot = .ok (decide (rank row < rank pivot)) :=
    fun row mem => compares row pivot (ordered.fits row mem) fits
  have together : rows.Pairwise fun a b =>
      decide (rank b < rank pivot) = true → decide (rank a < rank pivot) = true :=
    ordered.ascending.imp fun le passes => by
      simp only [decide_eq_true_eq] at passes ⊢
      exact le.trans_lt passes
  simpa using gallop_ok side answers together

/-! ### Runs -/

section Runs

variable (compares : Compares before P rank)
include compares

theorem insert_ordered {row : α} {rows : List α} (fits : P row) (ordered : Ordered P rank rows) :
    ∃ result, insert before row rows = .ok result ∧ Ordered P rank result := by
  fun_induction insert before row rows with
  | case1 rows hd => exact ⟨[row], rfl, .singleton fits⟩
  | case2 rows pivot later hd ih₁ ih₂ =>
    have split : rows = rows.take (rows.length / 2) ++ pivot :: later := by
      rw [← hd, List.take_append_drop]
    rw [split] at ordered
    obtain ⟨first, second, across⟩ := Ordered.append_iff.mp ordered
    obtain ⟨pivotFits, lowest, rest⟩ := Ordered.cons_iff.mp second
    rw [compares row pivot fits pivotFits]
    have below : ∀ a ∈ rows.take (rows.length / 2), rank a ≤ rank pivot :=
      fun a mem => across a mem pivot List.mem_cons_self
    by_cases ahead : rank row < rank pivot
    · obtain ⟨front, inserted, inOrder⟩ := ih₁ first
      refine ⟨front ++ pivot :: later,
        by simp [ahead, inserted, bind, Except.bind, pure, Except.pure],
        inOrder.around pivotFits rest (fun a mem => ?_) lowest⟩
      rcases List.mem_cons.mp ((insert_perm inserted).mem_iff.mp mem) with rfl | mem
      · exact ahead.le
      · exact below a mem
    · obtain ⟨back, inserted, inOrder⟩ := ih₂ rest
      refine ⟨rows.take (rows.length / 2) ++ pivot :: back,
        by simp [ahead, inserted, bind, Except.bind, pure, Except.pure],
        first.around pivotFits inOrder below fun other mem => ?_⟩
      rcases List.mem_cons.mp ((insert_perm inserted).mem_iff.mp mem) with rfl | mem
      · exact not_lt.mp ahead
      · exact lowest other mem

theorem foldlM_insert_ordered {rows sorted : List α} (fits : ∀ row ∈ rows, P row)
    (ordered : Ordered P rank sorted) :
    ∃ result, rows.foldlM (fun sorted row => insert before row sorted) sorted = .ok result ∧
      Ordered P rank result := by
  induction rows generalizing sorted with
  | nil => exact ⟨sorted, rfl, ordered⟩
  | cons row rest ih =>
    obtain ⟨next, inserted, inOrder⟩ :=
      insert_ordered compares (fits row List.mem_cons_self) ordered
    obtain ⟨result, folded, done⟩ :=
      ih (fun other mem => fits other (List.mem_cons_of_mem _ mem)) inOrder
    exact ⟨result, by rw [List.foldlM_cons, inserted]; exact folded, done⟩

omit compares in
theorem pairwise_cons_run {descending : Bool} {a b : α} {rest : List α}
    (step : decide (rank b < rank a) = descending)
    (run : (b :: rest).Pairwise fun a b => decide (rank b < rank a) = descending) :
    (a :: b :: rest).Pairwise fun a b => decide (rank b < rank a) = descending := by
  refine List.pairwise_cons.mpr ⟨fun c mem => ?_, run⟩
  rcases List.mem_cons.mp mem with rfl | mem
  · exact step
  · have further := (List.pairwise_cons.mp run).1 c mem
    cases descending with
    | false =>
      simp only [decide_eq_false_iff_not, not_lt] at step further ⊢
      exact step.trans further
    | true =>
      simp only [decide_eq_true_eq] at step further ⊢
      exact further.trans step

omit compares in
/-- A descending run is turned round, an ascending one is in order. -/
theorem ordered_of_run {descending : Bool} {run : List α} (fits : ∀ row ∈ run, P row)
    (goesOn : run.Pairwise fun a b => decide (rank b < rank a) = descending) :
    Ordered P rank (if descending then run.reverse else run) := by
  cases descending with
  | false => exact ⟨fits, goesOn.imp (by simp)⟩
  | true =>
    refine ⟨fun row mem => fits row (List.mem_reverse.mp mem), List.pairwise_reverse.mpr ?_⟩
    exact goesOn.imp fun below => le_of_lt (by simpa using below)

theorem streak_ok (descending : Bool) {last : α} {rest : List α} (lastFits : P last)
    (fits : ∀ row ∈ rest, P row) :
    ∃ count, streak before descending last rest = .ok count ∧
      (last :: rest.take count).Pairwise fun a b => decide (rank b < rank a) = descending := by
  induction rest generalizing last with
  | nil => exact ⟨0, rfl, by simp⟩
  | cons row rest ih =>
    have rowFits := fits row List.mem_cons_self
    rw [streak, compares row last rowFits lastFits]
    by_cases goesOn : decide (rank row < rank last) = descending
    · obtain ⟨count, counted, run⟩ :=
        ih rowFits fun other mem => fits other (List.mem_cons_of_mem _ mem)
      refine ⟨count + 1, by simp [goesOn, counted, bind, Except.bind, pure, Except.pure], ?_⟩
      rw [List.take_succ_cons]
      exact pairwise_cons_run goesOn run
    · exact ⟨0, by simp [goesOn, bind, Except.bind, pure, Except.pure], by simp⟩

theorem runs_ordered (least : Nat) {rows : List α} (fits : ∀ row ∈ rows, P row) :
    ∃ result, runs before least rows = .ok result ∧ ∀ run ∈ result, Ordered P rank run := by
  fun_induction runs before least rows with
  | case1 => exact ⟨[], rfl, by simp⟩
  | case2 row => exact ⟨[[row]], rfl, by simpa using .singleton (fits row List.mem_cons_self)⟩
  | case3 first second rest ih =>
    have firstFits := fits first List.mem_cons_self
    have secondFits := fits second (List.mem_cons_of_mem _ List.mem_cons_self)
    have restFits : ∀ row ∈ rest, P row := fun row mem =>
      fits row (List.mem_cons_of_mem _ (List.mem_cons_of_mem _ mem))
    obtain ⟨count, counted, goesOn⟩ :=
      streak_ok compares (decide (rank second < rank first)) secondFits restFits
    have inside : ∀ row ∈ first :: second :: rest.take count, P row := by
      intro row mem
      rcases List.mem_cons.mp mem with rfl | mem
      · exact firstFits
      rcases List.mem_cons.mp mem with rfl | mem
      · exact secondFits
      · exact restFits row (List.mem_of_mem_take mem)
    have run := ordered_of_run inside (pairwise_cons_run rfl goesOn)
    have missing : ∀ row ∈ (rest.take (max count (least - 2))).drop count, P row :=
      fun row mem => restFits row (List.mem_of_mem_take (List.mem_of_mem_drop mem))
    obtain ⟨filled, folded, inOrder⟩ := foldlM_insert_ordered compares missing run
    obtain ⟨more, cut, others⟩ := ih count fun row mem => restFits row (List.mem_of_mem_drop mem)
    refine ⟨filled :: more, ?_, by simpa using ⟨inOrder, others⟩⟩
    rw [compares second first secondFits firstFits]
    simp only [bind, Except.bind, pure, Except.pure, counted, folded, cut]

end Runs

end SystemCatalog.Sorting
