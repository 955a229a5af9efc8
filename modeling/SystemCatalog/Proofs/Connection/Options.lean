import SystemCatalog.Connection.Shares

/-!
# Merged options

Options merge into those that keep their places with the values of the others, and what else the
others give: `merge_eq_override`.
-/

namespace SystemCatalog.Connection.Options

variable {o others : Options} {e : Datum × Datum} {name : String} {value : Datum}

theorem same_text (a b : String) : Datum.same (.text a) (.text b) = (a == b) := by
  rw [Datum.same]

theorem same_text_iff {d : Datum} {a : String} : Datum.same (.text a) d = true ↔ d = .text a := by
  cases d with
  | text b =>
    rw [same_text, beq_iff_eq]
    constructor
    · rintro rfl
      rfl
    · intro same
      cases same
      rfl
  | _ => simp [Datum.same, Datum.numeric?]

def newValue (others : Options) (e : Datum × Datum) : Datum :=
  ((others.find? fun d => Datum.same e.1 d.1).map (·.2)).getD e.2

theorem override_eq (o others : Options) :
    o.override others = o.map (fun e => (e.1, newValue others e)) ++
      others.filter fun d => !o.any fun e => Datum.same e.1 d.1 := rfl

theorem newValue_cons (d : Datum × Datum) (others : Options) (e : Datum × Datum) :
    newValue (d :: others) e = if Datum.same e.1 d.1 then d.2 else newValue others e := by
  rw [newValue, List.find?_cons]
  cases Datum.same e.1 d.1 with
  | true => rfl
  | false => rfl

theorem newValue_of_none {key value : Datum} (none : ∀ d ∈ others, Datum.same key d.1 = false) :
    newValue others (key, value) = value := by
  have absent : others.find? (fun d => Datum.same key d.1) = Option.none := by
    rw [List.find?_eq_none]
    intro d mem
    rw [none d mem]
    decide
  rw [newValue, absent]
  rfl

def Single (o others : Options) : Prop :=
  ∀ e ∈ o, others.Pairwise fun c d => Datum.same e.1 c.1 = true → Datum.same e.1 d.1 = false

theorem single_map {f : Datum × Datum → Datum × Datum} (keys : ∀ e, (f e).1 = e.1)
    (single : Single o others) : Single (o.map f) others := by
  intro e mem
  obtain ⟨old, held, rfl⟩ := List.mem_map.mp mem
  rw [keys]
  exact single old held

theorem any_map {f : Datum × Datum → Datum × Datum} (keys : ∀ e, (f e).1 = e.1) (key : Datum) :
    ((o.map f).any fun e => Datum.same e.1 key) = o.any fun e => Datum.same e.1 key := by
  rw [List.any_map]
  congr 1
  funext e
  rw [Function.comp, keys]

def replaced (d e : Datum × Datum) : Datum × Datum :=
  if Datum.same e.1 d.1 then (e.1, d.2) else e

theorem replaced_key (d e : Datum × Datum) : (replaced d e).1 = e.1 := by
  unfold replaced
  split
  · rfl
  · rfl

theorem override_replaced {d : Datum × Datum} (single : Single o (d :: others))
    (known : (o.any fun e => Datum.same e.1 d.1) = true) :
    override (o.map (replaced d)) others = o.override (d :: others) := by
  have values : ∀ e ∈ o, ((fun e => (e.1, newValue others e)) ∘ replaced d) e =
      (e.1, newValue (d :: others) e) := by
    intro e mem
    rw [Function.comp, replaced_key, newValue_cons]
    cases same : Datum.same e.1 d.1 with
    | true =>
      have none := fun c inside => (List.pairwise_cons.mp (single e mem)).1 c inside same
      rw [replaced, same, if_pos rfl, newValue_of_none none]
      rfl
    | false =>
      rw [replaced, same]
      rfl
  have first : (!o.any fun e => Datum.same e.1 d.1) = false := by
    rw [known]
    rfl
  rw [override_eq, override_eq, List.map_map, List.map_congr_left values, List.filter_cons, first]
  simp only [any_map (replaced_key d)]
  rfl

theorem override_append {d : Datum × Datum} (new : (o.any fun e => Datum.same e.1 d.1) = false)
    (other : ∀ c ∈ others, Datum.same d.1 c.1 = false) :
    override (o ++ [d]) others = o.override (d :: others) := by
  have values : ∀ e ∈ o, (e.1, newValue others e) = (e.1, newValue (d :: others) e) := by
    intro e mem
    have different : Datum.same e.1 d.1 = false := by
      rw [Bool.eq_false_iff]
      exact fun same => List.any_eq_false.mp new e mem same
    rw [newValue_cons, different]
    rfl
  have last : (d.1, newValue others d) = d :=
    congrArg (Prod.mk d.1) (newValue_of_none other)
  have kept : ∀ c ∈ others, (!(o ++ [d]).any fun e => Datum.same e.1 c.1) =
      !o.any fun e => Datum.same e.1 c.1 := by
    intro c mem
    rw [List.any_append, List.any_cons, other c mem]
    simp
  have first : (!o.any fun e => Datum.same e.1 d.1) = true := by
    rw [new]
    rfl
  rw [override_eq, override_eq, List.map_append, List.map_congr_left values, List.map_singleton,
    last, List.filter_congr kept, List.filter_cons, first, if_pos rfl, List.append_assoc]
  rfl

theorem override_nil (o : Options) : o.override [] = o := by
  have values : ∀ e ∈ o, (e.1, newValue [] e) = e := fun e mem => rfl
  rw [override_eq, List.map_congr_left values, List.map_id', List.filter_nil, List.append_nil]

theorem merge_eq_override (single : Single o others) (distinct : Distinct others) :
    o.merge others = o.override others := by
  -- The merged options grow from the left, so what is merged into is any options; `Single` holds of
  -- them again after each step.
  induction others generalizing o with
  | nil => exact (override_nil o).symm
  | cons d others ih =>
    obtain ⟨other, rest⟩ := List.pairwise_cons.mp distinct
    have later : Single o others := fun e mem => (List.pairwise_cons.mp (single e mem)).2
    rw [merge, List.foldl_cons, ← merge, Datum.insert]
    cases known : o.any fun e => Datum.same e.1 d.1 with
    | true =>
      rw [if_pos rfl]
      exact (ih (single_map (replaced_key d) later) rest).trans (override_replaced single known)
    | false =>
      rw [if_neg (by decide)]
      have both : Single (o ++ [d]) others := by
        intro e mem
        rcases List.mem_append.mp mem with mem | mem
        · exact later e mem
        · obtain rfl := List.mem_singleton.mp mem
          apply rest.imp_of_mem
          intro c _ mem _ _ same
          rw [other c mem] at same
          cases same
      exact (ih both rest).trans (override_append known other)

/-! ### Options whose names are texts -/

def Named (o : Options) : Prop := ∀ e ∈ o, ∃ name, e.1 = .text name

theorem single_of_named (named : Named o) (distinct : Distinct others) : Single o others := by
  intro e mem
  obtain ⟨name, key⟩ := named e mem
  apply distinct.imp
  intro c d different same
  rw [key, same_text_iff] at same
  rw [same] at different
  rwa [key]

theorem distinct_texts {α : Type} {l : List α} {name : α → String} (value : α → Datum)
    (names : l.Pairwise fun a b => name a ≠ name b) :
    Distinct (l.map fun x => (.text (name x), value x)) := by
  rw [Distinct, List.pairwise_map]
  apply names.imp
  intro a b other
  rw [same_text]
  exact beq_eq_false_iff_ne.mpr other

theorem distinct_override (first : Distinct o) (second : Distinct others) :
    Distinct (o.override others) := by
  rw [override_eq, Distinct, List.pairwise_append]
  refine ⟨?_, second.filter _, ?_⟩
  · rw [List.pairwise_map]
    exact first
  · intro e mem d added
    obtain ⟨old, held, rfl⟩ := List.mem_map.mp mem
    have new := (List.mem_filter.mp added).2
    rw [Bool.not_eq_true', Bool.eq_false_iff] at new
    rw [Bool.eq_false_iff]
    exact fun same => new (List.any_eq_true.mpr ⟨old, held, same⟩)

theorem ofDatum_toDatum (o : Options) : ofDatum o.toDatum = .ok o := by
  cases o with
  | nil => rfl
  | cons e o => rfl

/-! ### Options that are added unless they are there -/

def entry (e : String × Datum) : Datum × Datum := (.text e.1, e.2)

theorem has_append (o others : Options) (name : String) :
    (o ++ others).has name = (o.has name || others.has name) := by
  rw [has, List.any_append]
  rfl

theorem has_singleton (e : String × Datum) (name : String) :
    has [entry e] name = (e.1 == name) := by
  rw [has, List.any_cons, entry, same_text]
  simp

theorem foldl_addNew (o : Options) {added : List (String × Datum)}
    (distinct : (added.map (·.1)).Nodup) :
    added.foldl (fun o e => o.addNew e.1 e.2) o =
      o ++ (added.filter fun e => !o.has e.1).map entry := by
  induction added generalizing o with
  | nil => rw [List.foldl_nil, List.filter_nil, List.map_nil, List.append_nil]
  | cons e added ih =>
    rw [List.map_cons, List.nodup_cons] at distinct
    rw [List.foldl_cons, ih _ distinct.2, addNew]
    cases known : o.has e.1 with
    | true => rw [if_pos rfl, List.filter_cons_of_neg (by simp [known])]
    | false =>
      have kept : ∀ d ∈ added, (!(o ++ [entry e]).has d.1) = !o.has d.1 := by
        intro d mem
        have other : (e.1 == d.1) = false := by
          rw [beq_eq_false_iff_ne]
          intro same
          exact distinct.1 (same ▸ List.mem_map_of_mem mem)
        rw [has_append, has_singleton, other, Bool.or_false]
      rw [if_neg (by decide), List.filter_cons_of_pos (by simp [known]), ← entry,
        List.filter_congr kept, List.map_cons, List.append_assoc]
      rfl

end SystemCatalog.Connection.Options
