import SystemCatalog.Proofs.Catalog.Conditions

/-!
# Requested kinds of tables

The condition for the requested kinds depends only on the distinct kinds that the catalog can tell
and on the order in which they are first requested.  It holds no pattern.
-/

namespace SystemCatalog.Catalog

open Sql

def noting (found : List String) (condition : String) : List String :=
  if found.contains condition then found else found ++ [condition]

theorem noting_mem {found : List String} {condition : String} (mem : condition ∈ found) :
    noting found condition = found := by
  rw [noting, if_pos (by simpa using mem)]

theorem mem_noting {found : List String} {condition other : String} :
    other ∈ noting found condition ↔ other ∈ found ∨ other = condition := by
  unfold noting
  split
  · next known =>
    constructor
    · exact Or.inl
    · rintro (mem | rfl)
      · exact mem
      · simpa using known
  · simp

theorem mem_foldl_noting {conditions found : List String} {condition : String} :
    condition ∈ conditions.foldl noting found ↔ condition ∈ found ∨ condition ∈ conditions := by
  induction conditions generalizing found with
  | nil => simp
  | cons next conditions ih => rw [List.foldl_cons, ih, mem_noting, List.mem_cons, or_assoc]

section Distinct

variable (f : String → Option String)

theorem foldl_noting_filter (l : List String) (found : List String) (a : String)
    (known : ∀ condition ∈ f a, condition ∈ found) :
    ((l.filter fun b => !b == a).filterMap f).foldl noting found =
      (l.filterMap f).foldl noting found := by
  induction l generalizing found with
  | nil => rfl
  | cons b l ih =>
    by_cases same : b = a
    · subst same
      rw [List.filter_cons_of_neg (by simp), ih found known]
      cases adds : f b with
      | none => rw [List.filterMap_cons_none adds]
      | some condition =>
        rw [List.filterMap_cons_some adds, List.foldl_cons,
          noting_mem (known condition (Option.mem_def.mpr adds))]
    · rw [List.filter_cons_of_pos (by simpa using same)]
      cases adds : f b with
      | none => rw [List.filterMap_cons_none adds, List.filterMap_cons_none adds, ih found known]
      | some condition =>
        rw [List.filterMap_cons_some adds, List.filterMap_cons_some adds, List.foldl_cons,
          List.foldl_cons]
        exact ih _ fun other mem => mem_noting.mpr (Or.inl (known other mem))

theorem foldl_noting_eraseDups (l : List String) (found : List String) :
    (l.eraseDups.filterMap f).foldl noting found = (l.filterMap f).foldl noting found := by
  match l with
  | [] => rfl
  | a :: l =>
    have shorter : (l.filter fun b => !b == a).length < (a :: l).length :=
      Nat.lt_succ_of_le (List.length_filter_le _ _)
    have rest := foldl_noting_eraseDups (l.filter fun b => !b == a)
    rw [List.eraseDups_cons]
    cases adds : f a with
    | none =>
      rw [List.filterMap_cons_none adds, List.filterMap_cons_none adds, rest]
      exact foldl_noting_filter f l found a (by simp [adds])
    | some condition =>
      rw [List.filterMap_cons_some adds, List.filterMap_cons_some adds, List.foldl_cons,
        List.foldl_cons, rest]
      exact foldl_noting_filter f l _ a (by simp [adds, mem_noting])
termination_by l.length
decreasing_by exact shorter

end Distinct

namespace Query

variable {typed : Bool} {column : String}

theorem isSome_kindCondition? (kind : String) :
    (kindCondition? kind typed column).isSome = (supportedTypes typed).contains kind := by
  unfold kindCondition?
  split
  case h_8 legacy legacySystem table systemTable view systemView foreign =>
    cases typed with
    | false =>
      have other : kind ∉ supportedTypes false := by
        intro mem
        rcases List.mem_cons.mp mem with rfl | mem
        · exact legacySystem rfl rfl
        · exact legacy (List.mem_singleton.mp mem) rfl
      simpa using other
    | true =>
      have other : kind ∉ supportedTypes true := by
        intro mem
        simp only [supportedTypes, tableTypes, if_true, List.mem_cons, List.not_mem_nil,
          or_false] at mem
        rcases mem with rfl | rfl | rfl | rfl | rfl
        · exact foreign rfl rfl
        · exact systemTable rfl rfl
        · exact systemView rfl rfl
        · exact table rfl rfl
        · exact view rfl rfl
      simpa using other
  all_goals
    rw [Option.isSome_some]
    decide

theorem filterMap_requestedCondition? (kinds : List String) :
    kinds.filterMap (requestedCondition? · typed column) =
      ((kinds.map normalizeKind).filter (supportedTypes typed).contains).filterMap
        (kindCondition? · typed column) := by
  rw [List.filterMap_filter, List.filterMap_map]
  apply List.filterMap_congr
  intro kind _
  have known : (kindCondition? (normalizeKind kind) typed column).isSome =
      (supportedTypes typed).contains (normalizeKind kind) := isSome_kindCondition? _
  simp only [requestedCondition?, Function.comp_apply, ← known]
  cases kindCondition? (normalizeKind kind) typed column <;> rfl

theorem kindConditions_texts (kinds : List String) (found : List String) :
    (kindConditions typed column found (kinds.map .text)).2 =
      .ok ((kinds.filterMap (requestedCondition? · typed column)).foldl noting found) := by
  induction kinds generalizing found with
  | nil => rfl
  | cons kind kinds ih =>
    rw [List.map_cons, kindConditions]
    cases condition : requestedCondition? kind typed column with
    | none =>
      have skipped := ih found
      rwa [← List.filterMap_cons_none (f := (requestedCondition? · typed column)) condition]
        at skipped
    | some next =>
      have noted := ih (noting found next)
      rwa [← List.foldl_cons,
        ← List.filterMap_cons_some (f := (requestedCondition? · typed column)) condition] at noted

/-- The conditions for requested kinds, in the order of the distinct supported ones. -/
theorem kindConditions_demanded (kinds : List String) :
    (kindConditions typed column [] (kinds.map .text)).2 =
      .ok (((demandedKinds typed kinds).filterMap (kindCondition? · typed column)).foldl
        noting []) := by
  rw [kindConditions_texts, filterMap_requestedCondition?, demandedKinds, foldl_noting_eraseDups]

theorem kindFilter_requested {request : Datum} {kinds : List String}
    (given : requestedKinds request = .ok (kinds.map .text)) :
    (kindFilter request typed column).2 =
      .ok (disjunction (((demandedKinds typed kinds).filterMap
        (kindCondition? · typed column)).foldl noting [])) := by
  have present : request.isNull = false := by
    cases request with
    | null => cases given
    | _ => rfl
  rw [kindFilter, present, if_neg (by simp), given]
  simp only [kindConditions_demanded]
  rfl

/-! ### Reading the condition -/

variable {q : Quoting}

theorem inSystemSchemas_eq (column : String) (inside : Bool) :
    inSystemSchemas column inside =
      column ++ if inside then " IN ('information_schema', 'pg_catalog', 'sys')"
        else " NOT IN ('information_schema', 'pg_catalog', 'sys')" := by
  rw [inSystemSchemas, String.append_assoc, String.append_assoc]
  cases inside <;> rfl

theorem legible_inSystemSchemas (quotes : '\'' ∉ column.toList) (inside : Bool) :
    (Part.trusted (inSystemSchemas column inside)).Legible q := by
  rw [inSystemSchemas_eq]
  cases inside with
  | false =>
    exact legible_append quotes (begins_ofList (by decide))
      (legible_ofList (by decide) (by cases q <;> decide))
  | true =>
    exact legible_append quotes (begins_ofList (by decide))
      (legible_ofList (by decide) (by cases q <;> decide))

theorem legible_typedCondition (quotes : '\'' ∉ column.toList) {type : String}
    (known : type ∈ ["BASE TABLE", "VIEW"]) (inside : Bool) :
    (Part.trusted (typedCondition type column inside)).Legible q := by
  obtain ⟨-, schemas⟩ : (Part.trusted (inSystemSchemas column inside)).Legible q :=
    legible_inSystemSchemas quotes inside
  have tail : Readable q (inSystemSchemas column inside ++ ")") :=
    readable_append schemas (readable_ofList (by cases q <;> decide))
      (Or.inr (begins_ofList (by decide)))
  have head : (Part.trusted ("(table_type = '" ++ type ++ "' AND ")).Legible q ∧
      (Piece.trusted ("(table_type = '" ++ type ++ "' AND ")).Ends := by
    rcases List.mem_cons.mp known with rfl | known
    · have text : "(table_type = '" ++ "BASE TABLE" ++ "' AND " =
          "(table_type = 'BASE TABLE' AND " := rfl
      rw [text]
      exact ⟨legible_ofList (by decide) (by cases q <;> decide), ends_ofList rfl (by decide)⟩
    · obtain rfl := List.mem_singleton.mp known
      have text : "(table_type = '" ++ "VIEW" ++ "' AND " = "(table_type = 'VIEW' AND " := rfl
      rw [text]
      exact ⟨legible_ofList (by decide) (by cases q <;> decide), ends_ofList rfl (by decide)⟩
  obtain ⟨⟨inhabited, read⟩, ends⟩ := head
  have joined : typedCondition type column inside =
      ("(table_type = '" ++ type ++ "' AND ") ++ (inSystemSchemas column inside ++ ")") :=
    String.append_assoc
  rw [joined]
  exact ⟨append_ne_empty inhabited, readable_append read tail (Or.inl ends)⟩

theorem legible_kindCondition? (quotes : '\'' ∉ column.toList) {kind condition : String}
    (h : kindCondition? kind typed column = some condition) :
    (Part.trusted condition).Legible q := by
  unfold kindCondition? at h
  split at h
  case h_1 | h_2 =>
    cases h
    exact legible_inSystemSchemas quotes _
  case h_3 | h_4 | h_5 | h_6 =>
    cases h
    exact legible_typedCondition quotes (by decide) _
  case h_7 =>
    cases h
    exact legible_ofList (by decide) (by cases q <;> decide)
  case h_8 => cases h

theorem readable_intercalate {conditions : List String}
    (readable : ∀ condition ∈ conditions, Readable q condition) :
    Readable q (String.intercalate " OR " conditions) := by
  induction conditions with
  | nil => rfl
  | cons condition conditions ih =>
    have first := readable condition List.mem_cons_self
    have rest := ih fun other mem => readable other (List.mem_cons_of_mem _ mem)
    cases conditions with
    | nil => exact first
    | cons next conditions =>
      have separator : Readable q " OR " := readable_ofList (by cases q <;> decide)
      have tail := readable_append separator rest (Or.inl (ends_ofList rfl (by decide)))
      have begins : (Piece.trusted " OR ").Begins := begins_ofList (by decide)
      rw [String.intercalate_cons_cons, String.append_assoc]
      exact readable_append first tail (Or.inr (begins_append (by simp) begins _))

theorem disjunction_parallel {f g : Filters} {conditions : List String}
    (legible : ∀ condition ∈ conditions, (Part.trusted condition).Legible q) :
    Parallel q f g [] (disjunction conditions) (disjunction conditions) := by
  unfold disjunction
  split
  · exact .trusted (legible_ofList (by decide) (by cases q <;> decide))
  · next condition => exact .trusted (legible condition List.mem_cons_self)
  · next conditions _ _ =>
    obtain ⟨inhabited, opening⟩ : (Part.trusted "(").Legible q :=
      legible_ofList (by decide) (by cases q <;> decide)
    have closing : Readable q ")" := readable_ofList (by cases q <;> decide)
    have inner := readable_intercalate fun condition mem => (legible condition mem).2
    have body := readable_append opening inner (Or.inl (ends_ofList rfl (by decide)))
    exact .trusted ⟨append_ne_empty (append_ne_empty inhabited),
      readable_append body closing (Or.inr (begins_ofList (by decide)))⟩

/-- Requests for the same kinds have one condition, which holds no pattern. -/
theorem kindFilter_sameTypes {version : Version} {d e : Datum} (same : SameTypes version d e)
    (quotes : '\'' ∉ column.toList) (f g : Filters) :
    ∃ kinds, (kindFilter d (isTyped version) column).2 = .ok kinds ∧
      (kindFilter e (isTyped version) column).2 = .ok kinds ∧ Parallel q f g [] kinds kinds := by
  cases same with
  | absent => exact ⟨.empty, rfl, rfl, .empty⟩
  | requested left right same =>
    rename_i kinds others
    refine ⟨_, kindFilter_requested left, ?_, ?_⟩
    · rw [same]
      exact kindFilter_requested right
    · apply disjunction_parallel
      intro condition mem
      rcases mem_foldl_noting.mp mem with mem | mem
      · exact absurd mem List.not_mem_nil
      · obtain ⟨kind, -, found⟩ := List.mem_filterMap.mp mem
        exact legible_kindCondition? quotes found

end Query

end SystemCatalog.Catalog
