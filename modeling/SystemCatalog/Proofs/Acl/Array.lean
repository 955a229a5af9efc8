import SystemCatalog.Acl.Array

/-!
# Pieces of arrays

`pass` follows the quotes of a text in which no comma separates anything.  Such a text stays in one
piece, whatever comes after it.
-/

namespace SystemCatalog.Acl

/-- Whether quotes are open after the text, and its last character, for a text without separating
commas. -/
def pass : (quoted : Bool) → (previous : Char) → List Char → Option (Bool × Char)
  | quoted, previous, [] => some (quoted, previous)
  | quoted, previous, c :: rest =>
    if c = ',' ∧ quoted = false then none
    else pass (if c = '"' ∧ previous ≠ '\\' then !quoted else quoted) c rest

/-- The pieces with more text in front of the first one. -/
def extend (front : List Char) : List (List Char) → List (List Char)
  | [] => [front]
  | piece :: more => (front ++ piece) :: more

@[simp] theorem extend_nil_cons (piece : List Char) (more : List (List Char)) :
    extend [] (piece :: more) = piece :: more := rfl

theorem pieces_ne_nil (quoted : Bool) (previous : Char) (s : List Char) :
    pieces quoted previous s ≠ [] := by
  cases s with
  | nil => simp [pieces]
  | cons c rest =>
    unfold pieces
    split
    · simp
    · split <;> simp

theorem extend_extend (a b : List Char) {more : List (List Char)} (h : more ≠ []) :
    extend a (extend b more) = extend (a ++ b) more := by
  cases more with
  | nil => exact absurd rfl h
  | cons piece more => simp [extend]

theorem pieces_comma (previous : Char) (rest : List Char) :
    pieces false previous (',' :: rest) = [] :: pieces false ',' rest := by
  simp [pieces]

theorem pieces_cons {quoted : Bool} {c : Char} (kept : ¬(c = ',' ∧ quoted = false))
    (previous : Char) (rest : List Char) :
    pieces quoted previous (c :: rest) =
      extend [c] (pieces (if c = '"' ∧ previous ≠ '\\' then !quoted else quoted) c rest) := by
  rw [pieces, if_neg kept]
  split
  · next eq => rw [eq]; rfl
  · next eq => exact absurd eq (pieces_ne_nil _ _ _)

theorem pieces_append {quoted after : Bool} {previous last : Char} {s : List Char}
    (h : pass quoted previous s = some (after, last)) (rest : List Char) :
    pieces quoted previous (s ++ rest) = extend s (pieces after last rest) := by
  induction s generalizing quoted previous with
  | nil =>
    obtain ⟨rfl, rfl⟩ := by simpa [pass] using h
    obtain ⟨piece, more, eq⟩ := List.exists_cons_of_ne_nil (pieces_ne_nil quoted previous rest)
    simp [eq]
  | cons c s ih =>
    rw [pass] at h
    split at h
    · exact absurd h (by simp)
    · next kept =>
      rw [List.cons_append, pieces_cons kept, ih h, extend_extend _ _ (pieces_ne_nil _ _ _)]
      rfl

theorem pass_append (quoted : Bool) (previous : Char) (a b : List Char) :
    pass quoted previous (a ++ b) =
      (pass quoted previous a).bind fun (after, last) => pass after last b := by
  induction a generalizing quoted previous with
  | nil => rfl
  | cons c a ih =>
    rw [List.cons_append, pass, pass]
    split
    · rfl
    · exact ih _ _

theorem pass_plain {quoted : Bool} {s : List Char} (plain : '"' ∉ s)
    (commas : quoted = false → ',' ∉ s) (previous : Char) :
    pass quoted previous s = some (quoted, s.getLastD previous) := by
  induction s generalizing previous with
  | nil => rfl
  | cons c s ih =>
    have quote : c ≠ '"' := fun eq => plain (by simp [eq])
    have kept : ¬(c = ',' ∧ quoted = false) := by
      rintro ⟨rfl, outside⟩
      exact commas outside (by simp)
    have rest := ih (fun mem => plain (List.mem_cons_of_mem _ mem))
      (fun outside mem => commas outside (List.mem_cons_of_mem _ mem)) c
    rw [pass, if_neg kept, if_neg (by simp [quote]), rest]
    cases s <;> rfl

theorem pass_quoted {s : List Char} (plain : '"' ∉ s) {previous : Char} (before : previous ≠ '\\')
    (unescaped : s.getLastD '"' ≠ '\\') :
    pass false previous ('"' :: (s ++ ['"'])) = some (false, '"') := by
  rw [pass, if_neg (by simp), if_pos ⟨rfl, before⟩, pass_append, pass_plain plain (by simp) '"']
  show pass true (s.getLastD '"') ['"'] = some (false, '"')
  rw [pass, if_neg (by simp), if_pos ⟨rfl, unescaped⟩]
  rfl

theorem pieces_join_cons {previous last : Char} {s : List Char}
    (passed : pass false previous s = some (false, last)) (next : List Char)
    (more : List (List Char)) :
    pieces false previous (List.intercalate [','] (s :: next :: more)) =
      s :: pieces false ',' (List.intercalate [','] (next :: more)) := by
  rw [List.intercalate_cons_cons, List.append_assoc, pieces_append passed, List.singleton_append,
    pieces_comma]
  simp [extend]

/-- Texts between commas, each without separating commas of its own, are the pieces, if all but the
last close the quotes that they open. -/
theorem pieces_intercalate {α : Type} {write : α → List Char} {stays : α → Bool} {items : List α}
    (passes : ∀ item ∈ items, ∀ previous, previous ≠ '\\' →
      ∃ last, pass false previous (write item) = some (stays item, last))
    (closed : ∀ item ∈ items.dropLast, stays item = false)
    (inhabited : items ≠ []) {previous : Char} (before : previous ≠ '\\') :
    pieces false previous (List.intercalate [','] (items.map write)) = items.map write := by
  induction items generalizing previous with
  | nil => exact absurd rfl inhabited
  | cons item items ih =>
    obtain ⟨last, passed⟩ := passes item List.mem_cons_self previous before
    cases items with
    | nil =>
      have single := pieces_append passed []
      simpa [pieces, extend] using single
    | cons next more =>
      rw [List.dropLast_cons_cons] at closed
      rw [closed item List.mem_cons_self] at passed
      have rest := ih (fun other mem => passes other (List.mem_cons_of_mem _ mem))
        (fun other mem => closed other (List.mem_cons_of_mem _ mem)) (by simp)
        (show ',' ≠ '\\' by decide)
      rw [List.map_cons] at rest
      rw [List.map_cons, List.map_cons, pieces_join_cons passed, rest]

/-! ### Pieces and the whole -/

theorem intercalate_pieces (quoted : Bool) (previous : Char) (s : List Char) :
    List.intercalate [','] (pieces quoted previous s) = s := by
  induction s generalizing quoted previous with
  | nil => simp [pieces]
  | cons c s ih =>
    by_cases separates : c = ',' ∧ quoted = false
    · obtain ⟨rfl, rfl⟩ := separates
      obtain ⟨piece, more, eq⟩ := List.exists_cons_of_ne_nil (pieces_ne_nil false ',' s)
      have rest := ih false ','
      rw [eq] at rest
      rw [pieces_comma, eq, List.intercalate_cons_cons, rest]
      rfl
    · have rest := ih (if c = '"' ∧ previous ≠ '\\' then !quoted else quoted) c
      rw [pieces_cons separates]
      obtain ⟨piece, more, eq⟩ := List.exists_cons_of_ne_nil
        (pieces_ne_nil (if c = '"' ∧ previous ≠ '\\' then !quoted else quoted) c s)
      rw [eq] at rest ⊢
      cases more with
      | nil => simpa [extend] using rest
      | cons next more => simpa [extend, List.intercalate_cons_cons] using rest

theorem length_le_intercalate {piece : List Char} {texts : List (List Char)}
    (mem : piece ∈ texts) : piece.length ≤ (List.intercalate [','] texts).length := by
  induction texts with
  | nil => cases mem
  | cons first rest ih =>
    cases rest with
    | nil =>
      obtain rfl := List.mem_singleton.mp mem
      simp
    | cons next more =>
      simp only [List.intercalate_cons_cons, List.length_append]
      rcases List.mem_cons.mp mem with rfl | mem
      · omega
      · have := ih mem
        omega

theorem eq_singleton_of_length {piece : List Char} {texts : List (List Char)}
    (mem : piece ∈ texts) (long : (List.intercalate [','] texts).length ≤ piece.length) :
    texts = [piece] := by
  cases texts with
  | nil => cases mem
  | cons first rest =>
    cases rest with
    | nil => rw [List.mem_singleton.mp mem]
    | cons next more =>
      exfalso
      simp only [List.intercalate_cons_cons, List.length_append, List.length_singleton] at long
      rcases List.mem_cons.mp mem with rfl | mem
      · omega
      · have := length_le_intercalate mem
        omega

/-- A text stays in one piece only if it holds no separating comma. -/
theorem pass_of_pieces {quoted : Bool} {previous : Char} {s : List Char}
    (single : (pieces quoted previous s).length = 1) : ∃ after, pass quoted previous s = some after := by
  induction s generalizing quoted previous with
  | nil => exact ⟨_, rfl⟩
  | cons c s ih =>
    by_cases separates : c = ',' ∧ quoted = false
    · obtain ⟨rfl, rfl⟩ := separates
      have inhabited := List.length_pos_iff.mpr (pieces_ne_nil false ',' s)
      rw [pieces_comma, List.length_cons] at single
      omega
    · rw [pieces_cons separates] at single
      rw [pass, if_neg separates]
      apply ih
      obtain ⟨piece, more, eq⟩ := List.exists_cons_of_ne_nil
        (pieces_ne_nil (if c = '"' ∧ previous ≠ '\\' then !quoted else quoted) c s)
      rw [eq] at single ⊢
      exact single

theorem dropClosing_extend (front : List Char) {texts : List (List Char)} (inhabited : texts ≠ [])
    (closed : texts ≠ [[]]) : dropClosing (extend front texts) = extend front (dropClosing texts) := by
  cases texts with
  | nil => exact absurd rfl inhabited
  | cons first rest =>
    cases rest with
    | nil =>
      have ends : first ≠ [] := fun eq => closed (by rw [eq])
      simp [dropClosing, extend, List.dropLast_append_of_ne_nil ends]
    | cons next more => rfl

theorem dropClosing_pieces {closing : Char} (other : closing ≠ ',') (quoted : Bool)
    (previous : Char) (s : List Char) :
    dropClosing (pieces quoted previous (s ++ [closing])) = pieces quoted previous s := by
  induction s generalizing quoted previous with
  | nil => simp [pieces, other, dropClosing]
  | cons c s ih =>
    rw [List.cons_append]
    by_cases separates : c = ',' ∧ quoted = false
    · obtain ⟨rfl, rfl⟩ := separates
      obtain ⟨piece, more, eq⟩ :=
        List.exists_cons_of_ne_nil (pieces_ne_nil false ',' (s ++ [closing]))
      have rest := ih false ','
      rw [eq] at rest
      rw [pieces_comma, pieces_comma, ← rest, eq]
      rfl
    · rw [pieces_cons separates, pieces_cons separates, dropClosing_extend, ih]
      · exact pieces_ne_nil _ _ _
      · intro empty
        have whole := intercalate_pieces
          (if c = '"' ∧ previous ≠ '\\' then !quoted else quoted) c (s ++ [closing])
        rw [empty] at whole
        simp at whole

theorem rawEntries_braces (opening : Char) {closing : Char} (other : closing ≠ ',')
    (s : List Char) : rawEntries (opening :: (s ++ [closing])) = pieces false ' ' s :=
  dropClosing_pieces other false ' ' s

end SystemCatalog.Acl
