import Mathlib.Order.OrderDual
import SystemCatalog.Proofs.Sorting.Order

/-!
# Merging in order

Runs in order are merged into a run in order, from either end and whatever the pace is, so that
sorting puts rows in the order of their ranks: `sort_ordered`.
-/

namespace SystemCatalog.Sorting

variable {α ε κ : Type} [LinearOrder κ]
variable {before : α → α → Except ε Bool} {P : α → Prop} {rank : α → κ} {rows : List α}

/-- What a step takes goes ahead of the row after it, and the rest of that run does not. -/
def Step.Takes (rank : α → κ) (t o : α) (kept other : List α) (s : Step) : Prop :=
  if s.fromKept then
    (∀ row ∈ kept.take s.count, rank row ≤ rank o) ∧ ∀ row ∈ kept.drop s.count, rank o ≤ rank row
  else
    (∀ row ∈ other.take s.count, rank row ≤ rank t) ∧ ∀ row ∈ other.drop s.count, rank t ≤ rank row

/-! ### Steps -/

section Steps

variable {side : Side} (wins : Compares (side.wins before) P rank)
include wins

theorem walk_takes {t o : α} {kept other : List α} (keptOrdered : Ordered P rank (t :: kept))
    (otherOrdered : Ordered P rank (o :: other)) (lastOther : Bool) (streak patience : Nat) :
    ∃ s, walk side before t o lastOther streak patience = .ok s ∧
      s.Takes rank t o (t :: kept) (o :: other) := by
  obtain ⟨tFits, lowest, -⟩ := Ordered.cons_iff.mp keptOrdered
  obtain ⟨oFits, lowest', -⟩ := Ordered.cons_iff.mp otherOrdered
  rw [walk, wins o t oFits tFits]
  refine ⟨_, rfl, ?_⟩
  by_cases ahead : rank o < rank t
  · have reached : ∀ row ∈ t :: kept, rank o ≤ rank row := by
      intro row mem
      rcases List.mem_cons.mp mem with rfl | mem
      · exact ahead.le
      · exact ahead.le.trans (lowest row mem)
    simpa [Step.Takes, ahead] using reached
  · have reached : ∀ row ∈ o :: other, rank t ≤ rank row := by
      intro row mem
      rcases List.mem_cons.mp mem with rfl | mem
      · exact not_lt.mp ahead
      · exact (not_lt.mp ahead).trans (lowest' row mem)
    simpa [Step.Takes, ahead] using reached

theorem leap_takes {t o : α} {kept other : List α} (tFits : P t) (oFits : P o)
    (keptOrdered : Ordered P rank kept) (otherOrdered : Ordered P rank other) (fromKept : Bool)
    (next : Nat → Pace) (patience : Nat) :
    ∃ s, leap side before kept other t o fromKept next patience = .ok s ∧
      s.Takes rank t o kept other := by
  cases fromKept with
  | true =>
    obtain ⟨count, found, taken, left⟩ := gallop_reached side wins oFits keptOrdered
    refine ⟨_, by rw [leap, if_pos rfl, found]; rfl, ?_⟩
    simpa [Step.Takes] using ⟨taken, fun row mem => (left row mem).le⟩
  | false =>
    obtain ⟨count, found, taken, left⟩ := gallop_below side wins tFits otherOrdered
    refine ⟨_, by rw [leap, if_neg (by simp), found]; rfl, ?_⟩
    simpa [Step.Takes] using ⟨fun row mem => (taken row mem).le, left⟩

theorem step_takes {t o : α} {kept other : List α} (keptOrdered : Ordered P rank (t :: kept))
    (otherOrdered : Ordered P rank (o :: other)) (pace : Pace) (patience : Nat) :
    ∃ s, step side before pace patience (t :: kept) (o :: other) t o = .ok s ∧
      s.Takes rank t o (t :: kept) (o :: other) := by
  have tFits := keptOrdered.fits t List.mem_cons_self
  have oFits := otherOrdered.fits o List.mem_cons_self
  have leaps := leap_takes wins tFits oFits keptOrdered otherOrdered
  have walks := walk_takes wins keptOrdered otherOrdered
  unfold step
  dsimp only
  split
  · split
    · exact leaps _ _ _
    · exact walks _ _ _
  · exact leaps _ _ _
  · split
    · exact leaps _ _ _
    · exact walks _ _ _

/-- Two runs in order become one, if the last row of the kept run is behind the whole other run. -/
theorem interleave_ordered {kept other : List α} (keptOrdered : Ordered P rank kept)
    (otherOrdered : Ordered P rank other)
    (behind : ∀ last ∈ kept.getLast?, ∀ row ∈ other, rank row ≤ rank last)
    (pace : Pace) (patience : Nat) :
    ∃ result, interleave side before pace patience kept other = .ok result ∧
      Ordered P rank result.1 := by
  -- The kept run ends in the same row until it is used up, so that row stays behind the other run.
  fun_induction interleave side before pace patience kept other with
  | case1 => exact ⟨_, rfl, keptOrdered⟩
  | case2 => exact ⟨_, rfl, otherOrdered⟩
  | case3 pace patience t other =>
    refine ⟨_, rfl, otherOrdered.around (keptOrdered.fits t List.mem_cons_self) .nil ?_ (by simp)⟩
    simpa using behind
  | case4 pace patience t u kept o other ih₁ ih₂ =>
    obtain ⟨s, stepped, takes⟩ := step_takes wins keptOrdered otherOrdered pace patience
    obtain ⟨tFits, lowest, restOrdered⟩ := Ordered.cons_iff.mp keptOrdered
    obtain ⟨oFits, lowest', restOrdered'⟩ := Ordered.cons_iff.mp otherOrdered
    rw [stepped]
    by_cases fromKept : s.fromKept = true
    · obtain ⟨taken, left⟩ : _ ∧ _ := by simpa [Step.Takes, fromKept] using takes
      have stillBehind : ∀ last ∈ ((t :: u :: kept).drop s.count).getLast?, ∀ row ∈ other,
          rank row ≤ rank last := by
        intro last mem row inOther
        rw [List.getLast?_drop] at mem
        split at mem
        · simp at mem
        · exact behind last mem row (List.mem_cons_of_mem _ inOther)
      obtain ⟨rest, merged, inOrder⟩ := ih₁ s (keptOrdered.drop _) restOrdered' stillBehind
      refine ⟨(_ ++ o :: rest.1, rest.2), ?_,
        (keptOrdered.take _).around oFits inOrder taken fun row mem => ?_⟩
      · simp [bind, Except.bind, pure, Except.pure, fromKept, merged]
      · rcases List.mem_append.mp ((interleave_perm merged).mem_iff.mp mem) with mem | mem
        · exact left row mem
        · exact lowest' row mem
    · obtain ⟨taken, left⟩ : _ ∧ _ := by simpa [Step.Takes, fromKept] using takes
      have stillBehind : ∀ last ∈ (u :: kept).getLast?, ∀ row ∈ (o :: other).drop s.count,
          rank row ≤ rank last := fun last mem row inOther =>
        behind last (by simpa using mem) row (List.mem_of_mem_drop inOther)
      obtain ⟨rest, merged, inOrder⟩ := ih₂ s restOrdered (otherOrdered.drop _) stillBehind
      refine ⟨(_ ++ t :: rest.1, rest.2), ?_,
        (otherOrdered.take _).around tFits inOrder taken fun row mem => ?_⟩
      · simp [bind, Except.bind, pure, Except.pure, fromKept, merged]
      · rcases List.mem_append.mp ((interleave_perm merged).mem_iff.mp mem) with mem | mem
        · exact lowest row mem
        · exact left row mem

theorem mergeFrom_ordered {kept other : List α} (keptOrdered : Ordered P rank kept)
    (otherOrdered : Ordered P rank other)
    (ahead : ∀ first ∈ other.head?, ∀ row ∈ kept, rank first ≤ rank row)
    (behind : ∀ last ∈ kept.getLast?, ∀ row ∈ other, rank row ≤ rank last) (patience : Nat) :
    ∃ result, mergeFrom side before patience kept other = .ok result ∧
      Ordered P rank result.1 := by
  cases other with
  | nil => exact ⟨_, rfl, keptOrdered⟩
  | cons o other =>
    obtain ⟨oFits, lowest, rest⟩ := Ordered.cons_iff.mp otherOrdered
    obtain ⟨result, merged, inOrder⟩ := interleave_ordered wins keptOrdered rest
      (fun last mem row inOther => behind last mem row (List.mem_cons_of_mem _ inOther))
      (.walk true 0) patience
    refine ⟨(o :: result.1, result.2), by rw [mergeFrom, merged]; rfl,
      Ordered.cons_iff.mpr ⟨oFits, fun row mem => ?_, inOrder⟩⟩
    rcases List.mem_append.mp ((interleave_perm merged).mem_iff.mp mem) with mem | mem
    · exact ahead o rfl row mem
    · exact lowest row mem

end Steps

/-! ### Runs side by side -/

section Merging

variable (compares : Compares before P rank)
include compares

theorem Compares.back : Compares (Side.back.wins before) P (OrderDual.toDual ∘ rank) :=
  fun a b aFits bFits => compares b a bFits aFits

omit compares in
theorem Ordered.reverse (ordered : Ordered P rank rows) :
    Ordered P (OrderDual.toDual ∘ rank) rows.reverse :=
  ⟨fun row mem => ordered.fits row (List.mem_reverse.mp mem),
    List.pairwise_reverse.mpr ordered.ascending⟩

omit compares in
theorem Ordered.of_reverse (ordered : Ordered P (OrderDual.toDual ∘ rank) rows) :
    Ordered P rank rows.reverse :=
  ordered.reverse

theorem mergeBetween_ordered {left right : List α} (leftOrdered : Ordered P rank left)
    (rightOrdered : Ordered P rank right)
    (ahead : ∀ first ∈ right.head?, ∀ row ∈ left, rank first ≤ rank row)
    (behind : ∀ last ∈ left.getLast?, ∀ row ∈ right, rank row ≤ rank last) (patience : Nat) :
    ∃ result, mergeBetween before patience left right = .ok result ∧
      Ordered P rank result.1 := by
  unfold mergeBetween
  split
  · exact @mergeFrom_ordered _ _ _ _ _ _ _ .front compares _ _ leftOrdered rightOrdered
      ahead behind patience
  · obtain ⟨result, merged, inOrder⟩ :=
      mergeFrom_ordered compares.back rightOrdered.reverse leftOrdered.reverse
        (fun last mem row inRight => behind last (by simpa using mem) row (by simpa using inRight))
        (fun first mem row inLeft => ahead first (by simpa using mem) row (by simpa using inLeft))
        patience
    exact ⟨_, by rw [merged]; rfl, inOrder.of_reverse⟩

theorem gallop_trail {pivot : α} (fits : P pivot) (ordered : Ordered P rank rows) :
    ∃ trail, gallop .back (fun row => (!·) <$> before row pivot) rows.reverse = .ok trail ∧
      (∀ row ∈ rows.drop (rows.length - trail), rank pivot ≤ rank row) ∧
      ∀ row ∈ rows.take (rows.length - trail), rank row < rank pivot := by
  obtain ⟨trail, trails, stay, move⟩ := gallop_reached .back compares.back fits ordered.reverse
  simp only [List.take_reverse, List.drop_reverse, List.mem_reverse] at stay move
  exact ⟨trail, trails, stay, move⟩

omit compares in
theorem Ordered.between {left right middle : List α} {lead cut : Nat}
    (leftOrdered : Ordered P rank left) (rightOrdered : Ordered P rank right)
    (ordered : Ordered P rank middle) (perm : middle.Perm (left.drop lead ++ right.take cut))
    (front : ∀ a ∈ left.take lead, ∀ b ∈ right, rank a ≤ rank b)
    (back : ∀ a ∈ left.drop lead, ∀ b ∈ right.drop cut, rank a ≤ rank b) :
    Ordered P rank (left.take lead ++ middle ++ right.drop cut) := by
  have inside : ∀ row ∈ middle, row ∈ left.drop lead ∨ row ∈ right.take cut :=
    fun row mem => List.mem_append.mp (perm.mem_iff.mp mem)
  have below : ∀ a ∈ left.take lead, ∀ b ∈ middle, rank a ≤ rank b := by
    intro a mem b mem'
    rcases inside b mem' with mem' | mem'
    · exact leftOrdered.take_le_drop lead a mem b mem'
    · exact front a mem b (List.mem_of_mem_take mem')
  have above : ∀ a ∈ left.take lead ++ middle, ∀ b ∈ right.drop cut, rank a ≤ rank b := by
    intro a mem b mem'
    rcases List.mem_append.mp mem with mem | mem
    · exact front a mem b (List.mem_of_mem_drop mem')
    rcases inside a mem with mem | mem
    · exact back a mem b mem'
    · exact rightOrdered.take_le_drop cut a mem b mem'
  exact append_iff.mpr
    ⟨append_iff.mpr ⟨leftOrdered.take lead, ordered, below⟩, rightOrdered.drop cut, above⟩

theorem mergeRuns_ordered {left right : List α} (leftOrdered : Ordered P rank left)
    (rightOrdered : Ordered P rank right) (patience : Nat) :
    ∃ result, mergeRuns before patience left right = .ok result ∧ Ordered P rank result.1 := by
  cases right with
  | nil => exact ⟨_, rfl, leftOrdered⟩
  | cons first rest =>
    obtain ⟨firstFits, lowest, -⟩ := Ordered.cons_iff.mp rightOrdered
    obtain ⟨lead, leads, stay, move⟩ := gallop_reached .front compares firstFits leftOrdered
    have front : ∀ a ∈ left.take lead, ∀ b ∈ first :: rest, rank a ≤ rank b := by
      intro a mem b mem'
      rcases List.mem_cons.mp mem' with rfl | mem'
      · exact stay a mem
      · exact (stay a mem).trans (lowest b mem')
    rw [mergeRuns, leads]
    simp only [bind, Except.bind, pure, Except.pure]
    split
    · next empty =>
      have whole : left.take lead = left := by
        have := List.take_append_drop lead left
        rwa [List.getLast?_eq_none_iff.mp empty, List.append_nil] at this
      rw [whole] at front
      exact ⟨_, rfl, Ordered.append_iff.mpr ⟨leftOrdered, rightOrdered, front⟩⟩
    · next last ends =>
      have kept := leftOrdered.drop lead
      have atMost := kept.le_getLast? ends
      obtain ⟨trail, trails, stay', move'⟩ :=
        gallop_trail compares (kept.fits last (List.mem_of_getLast? ends)) rightOrdered
      rw [trails]
      simp only [List.splitAt_eq]
      generalize (first :: rest).length - trail = cut at stay' move' ⊢
      have ahead : ∀ f ∈ ((first :: rest).take cut).head?, ∀ row ∈ left.drop lead,
          rank f ≤ rank row := by
        intro f mem row inLeft
        rw [List.head?_take] at mem
        split at mem
        · simp at mem
        · obtain rfl : first = f := by simpa using mem
          exact (move row inLeft).le
      have behind : ∀ l ∈ (left.drop lead).getLast?, ∀ row ∈ (first :: rest).take cut,
          rank row ≤ rank l := by
        intro l mem row inRight
        obtain rfl : last = l := by simpa [ends] using mem
        exact (move' row inRight).le
      obtain ⟨result, merged, inOrder⟩ :=
        mergeBetween_ordered compares kept (rightOrdered.take cut) ahead behind patience
      rw [merged]
      exact ⟨_, rfl, leftOrdered.between rightOrdered inOrder (mergeBetween_perm merged) front
        fun a mem b mem' => (atMost a mem).trans (stay' b mem')⟩

/-! ### Runs that wait -/

theorem Waiting.collapse_ordered {runs : List (List α × Nat)}
    (ordered : ∀ run ∈ runs, Ordered P rank run.1) (depth patience : Nat) :
    ∃ w, collapse before depth patience runs = .ok w ∧ ∀ run ∈ w.runs, Ordered P rank run.1 := by
  fun_induction collapse before depth patience runs with
  | case1 patience last ahead rest deeper ih =>
    simp only [List.forall_mem_cons] at ordered
    obtain ⟨lastOrdered, aheadOrdered, others⟩ := ordered
    obtain ⟨merged, merges, inOrder⟩ :=
      mergeRuns_ordered compares aheadOrdered lastOrdered patience
    rw [merges]
    exact ih merged.1 merged.2 (List.forall_mem_cons.mpr ⟨inOrder, others⟩)
  | case2 | case3 => exact ⟨_, rfl, ordered⟩

theorem Waiting.push_ordered {w : Waiting α} {run : List α}
    (waiting : ∀ run ∈ w.runs, Ordered P rank run.1) (ordered : Ordered P rank run) (total : Nat) :
    ∃ w', push before total w run = .ok w' ∧ ∀ run ∈ w'.runs, Ordered P rank run.1 := by
  unfold push
  split
  · exact ⟨_, rfl, by simpa using ordered⟩
  · dsimp only
    obtain ⟨collapsed, collapses, inOrder⟩ := collapse_ordered compares waiting
      (depth total (2 * w.size - _) (2 * w.size + run.length)) w.patience
    rw [collapses]
    exact ⟨_, rfl, List.forall_mem_cons.mpr ⟨ordered, inOrder⟩⟩

theorem Waiting.foldlM_push_ordered {runs : List (List α)} {w : Waiting α}
    (waiting : ∀ run ∈ w.runs, Ordered P rank run.1) (ordered : ∀ run ∈ runs, Ordered P rank run)
    (total : Nat) :
    ∃ w', runs.foldlM (push before total) w = .ok w' ∧ ∀ run ∈ w'.runs, Ordered P rank run.1 := by
  induction runs generalizing w with
  | nil => exact ⟨w, rfl, waiting⟩
  | cons run rest ih =>
    obtain ⟨first, others⟩ := List.forall_mem_cons.mp ordered
    obtain ⟨next, pushed, inOrder⟩ := push_ordered compares waiting first total
    rw [List.foldlM_cons, pushed]
    exact ih inOrder others

theorem Waiting.finish_ordered {runs : List (List α)} (ordered : ∀ run ∈ runs, Ordered P rank run)
    (patience : Nat) :
    ∃ result, finish before patience runs = .ok result ∧ Ordered P rank result := by
  fun_induction finish before patience runs with
  | case1 => exact ⟨_, rfl, .nil⟩
  | case2 => exact ⟨_, rfl, ordered _ List.mem_cons_self⟩
  | case3 patience last ahead =>
    simp only [List.forall_mem_cons] at ordered
    obtain ⟨lastOrdered, aheadOrdered, -⟩ := ordered
    obtain ⟨merged, merges, inOrder⟩ :=
      mergeRuns_ordered compares aheadOrdered lastOrdered patience
    exact ⟨merged.1, by rw [merges]; rfl, inOrder⟩
  | case4 patience last ahead further rest shorter ih =>
    simp only [List.forall_mem_cons] at ordered
    obtain ⟨lastOrdered, aheadOrdered, furtherOrdered, others⟩ := ordered
    obtain ⟨merged, merges, inOrder⟩ :=
      mergeRuns_ordered compares furtherOrdered aheadOrdered patience
    rw [merges]
    exact ih merged.1 merged.2
      (List.forall_mem_cons.mpr ⟨lastOrdered, List.forall_mem_cons.mpr ⟨inOrder, others⟩⟩)
  | case5 patience last ahead further rest shorter ih =>
    simp only [List.forall_mem_cons] at ordered
    obtain ⟨lastOrdered, aheadOrdered, furtherOrdered, others⟩ := ordered
    obtain ⟨merged, merges, inOrder⟩ :=
      mergeRuns_ordered compares aheadOrdered lastOrdered patience
    rw [merges]
    exact ih merged.1 merged.2
      (List.forall_mem_cons.mpr ⟨inOrder, List.forall_mem_cons.mpr ⟨furtherOrdered, others⟩⟩)

/-- Sorting rows that compare by a rank gives them in the order of their ranks. -/
theorem sort_ordered (fits : ∀ row ∈ rows, P row) :
    ∃ result, sort before rows = .ok result ∧ Ordered P rank result := by
  obtain ⟨cut, cuts, cutOrdered⟩ := runs_ordered compares (leastRun rows.length) fits
  obtain ⟨waiting, pushes, waitingOrdered⟩ := Waiting.foldlM_push_ordered compares
    (w := {}) (by simp) cutOrdered rows.length
  obtain ⟨result, finishes, inOrder⟩ := Waiting.finish_ordered compares
    (List.forall_mem_map.mpr waitingOrdered) waiting.patience
  exact ⟨result, by simp only [sort, cuts, pushes, finishes, bind, Except.bind], inOrder⟩

end Merging

end SystemCatalog.Sorting
