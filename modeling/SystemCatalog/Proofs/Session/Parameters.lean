import SystemCatalog.Proofs.Session.Connecting
import SystemCatalog.Proofs.Session.Opening

/-!
# Parameters of statements

A statement that is put together from texts has a placeholder between each text and the next, and
none in a text whose percent signs are doubled.  On a live connection it is sent with as many
parameters as it has placeholders, and with no other number: `perform_template`.
-/

namespace SystemCatalog

namespace Connection

/-! ### Counting placeholders -/

theorem placeholders_cons {c : Char} (other : c ≠ '%') (rest : List Char) :
    placeholders (c :: rest) = placeholders rest := by
  rw [placeholders.eq_def]
  split
  · next eq => exact absurd eq (by simp)
  · next eq => exact absurd (List.cons.inj eq).1 other
  · next eq => exact absurd (List.cons.inj eq).1 other
  · next eq => rw [(List.cons.inj eq).2]

theorem placeholders_mark (rest : List Char) :
    placeholders ('%' :: 's' :: rest) = placeholders rest + 1 := rfl

theorem placeholders_doubled (rest : List Char) :
    placeholders ('%' :: '%' :: rest) = placeholders rest := rfl

/-- No placeholder begins in a text whose percent signs are doubled, whatever comes after it. -/
theorem placeholders_escaped (text rest : List Char) :
    placeholders (escaped text ++ rest) = placeholders rest := by
  induction text with
  | nil => rfl
  | cons c text ih =>
    rw [escaped, List.flatMap_cons, ← escaped, List.append_assoc]
    by_cases percent : c = '%'
    · rw [if_pos percent]
      exact (placeholders_doubled _).trans ih
    · rw [if_neg percent]
      exact (placeholders_cons percent _).trans ih

theorem placeholders_intercalate (first : List Char) (others : List (List Char)) :
    placeholders (List.intercalate ['%', 's'] ((first :: others).map escaped)) =
      others.length := by
  induction others generalizing first with
  | nil =>
    have alone := placeholders_escaped first []
    rw [List.append_nil] at alone
    rw [List.map_singleton, List.intercalate_singleton, alone]
    rfl
  | cons next more ih =>
    rw [List.map_cons, List.map_cons, List.intercalate_cons_cons, List.append_assoc,
      placeholders_escaped, ← List.map_cons, List.cons_append, List.singleton_append,
      placeholders_mark, ih, List.length_cons]

theorem placeholders_template (first : String) (others : List String) :
    placeholders (template (first :: others)).toList = others.length := by
  have joined := placeholders_intercalate first.toList (others.map String.toList)
  rw [List.length_map, ← List.map_cons, List.map_map] at joined
  rw [template, String.toList_ofList]
  exact joined

variable {parameters : Datum} {values : List Datum}

theorem checkParameters_eq (sequence : parameters.elements? = some values) (sql : String) :
    checkParameters sql parameters =
      if values.length = placeholders sql.toList then .ok ()
      else .error (.parameterCount (placeholders sql.toList) values.length) := by
  rw [checkParameters, Datum.size?, sequence]
  rfl

end Connection

namespace Session

open Connection (checkParameters checkParameters_eq placeholders placeholders_template template)
open Session.Action

variable {s t : State} {f : Fault} {driver : Driver} {link : Link} {sql : String}
  {parameters : Datum} {values : List Datum}

/-! ### Executing statements on a live connection -/

theorem timed_final {α : Type} (logger name sql : String) (parameters : Datum) (a : Action α)
    (s : State) : ∃ record,
      (timed logger name sql parameters a).final s = (a.final s).noted [] [record] := by
  cases result : timed logger name sql parameters a s with
  | ok x t =>
    obtain ⟨u, record, inner, rfl⟩ := timed_ok result
    exact ⟨record, by rw [final_ok result, final_ok inner]⟩
  | error f t =>
    obtain ⟨u, record, inner, rfl⟩ := timed_error result
    exact ⟨record, by rw [final_error result, final_error inner]⟩

theorem send_final (driver : Driver) (link : Link) (sql : String) (parameters : Datum)
    (s : State) : (send driver link sql parameters).final s =
      s.noted [.statement link.number sql (sentParameters parameters)] [] := by
  cases result : send driver link sql parameters s with
  | ok x t =>
    rw [final_ok result]
    exact (send_ok result).2
  | error f t =>
    rw [final_error result]
    exact (send_error result).2

theorem isNull_of_elements? (sequence : parameters.elements? = some values) :
    parameters.isNull = false := by
  cases parameters with
  | null => cases sequence
  | _ => rfl

theorem execute_accepted (access : s.access = .driver driver) (holds : s.link = some link)
    (live : link.dropped = false) (sequence : parameters.elements? = some values)
    (accepted : checkParameters sql parameters = .ok ()) : ∃ records,
      (execute sql parameters).final s =
        s.noted [.cursor, .statement link.number sql (some values)] records := by
  have given := isNull_of_elements? sequence
  have sent : sentParameters parameters = some values := by
    rw [sentParameters, given, sequence]
    rfl
  unfold execute
  rw [final_bind_ok (get_run s), access]
  dsimp only
  rw [final_bind_ok (ensureLink_of_live holds live), given]
  rw [if_pos (by rfl), final_bind_ok (ofExcept_run accepted s), final_bind_ok (emit_run _ s)]
  obtain ⟨record, noted⟩ := timed_final wireLogger "crate.execute" sql
    ((Redaction.parameters? parameters).getD .null) (send driver link sql parameters)
    (s.noted [.cursor] [])
  exact ⟨[record], by rw [noted, send_final, sent]; simp⟩

theorem execute_refused (access : s.access = .driver driver) (holds : s.link = some link)
    (live : link.dropped = false) (sequence : parameters.elements? = some values)
    (refused : checkParameters sql parameters = .error f) :
    execute sql parameters s = .error f s := by
  have given := isNull_of_elements? sequence
  unfold execute
  rw [bind_of_ok (get_run s), access]
  dsimp only
  rw [bind_of_ok (ensureLink_of_live holds live), given]
  rw [if_pos (by rfl), bind_of_error (ofExcept_fail refused s)]

/-- A statement of some texts with placeholders between them takes one parameter less than there are
texts.  On a live connection a cursor is opened and the statement sent exactly if there are so many
parameters; if there are not, executing fails and nothing has happened. -/
theorem perform_template (access : s.access = .driver driver) (holds : s.link = some link)
    (live : link.dropped = false) (first : String) (others : List String)
    (sequence : parameters.elements? = some values) {outcome : Except Fault Reply}
    (performed : s.perform (Step.execute (template (first :: others)) parameters).action =
      (outcome, t)) :
    placeholders (template (first :: others)).toList = others.length ∧
    (t.events = [.cursor, .statement link.number (template (first :: others)) (some values)] ↔
      values.length = others.length) ∧
    ((∃ f, outcome = .error f ∧ f.family = .execution ∧ t = s.cleared) ↔
      values.length ≠ others.length) := by
  have counted := placeholders_template first others
  have checked := checkParameters_eq sequence (template (first :: others))
  rw [counted] at checked
  refine ⟨counted, ?_⟩
  by_cases enough : values.length = others.length
  · rw [if_pos enough] at checked
    obtain ⟨records, sent⟩ :=
      @execute_accepted s.cleared _ _ _ _ _ access holds live sequence checked
    have after : t = s.cleared.noted
        [.cursor, .statement link.number (template (first :: others)) (some values)] records := by
      have final :=
        State.perform_snd s (Step.execute (template (first :: others)) parameters).action
      rw [performed] at final
      exact final.trans ((final_bind_of_final (fun _ _ => rfl) _).trans sent)
    subst after
    refine ⟨iff_of_true rfl enough, iff_of_false ?_ (fun other => other enough)⟩
    rintro ⟨f, -, -, same⟩
    have events := congrArg State.events same
    cases events
  · rw [if_neg enough] at checked
    have failed := @execute_refused s.cleared _ _ _ _ _ _ access holds live sequence checked
    have outcome_eq : s.perform (Step.execute (template (first :: others)) parameters).action = _ :=
      State.perform_of_error (bind_of_error failed)
    rw [performed] at outcome_eq
    cases outcome_eq
    refine ⟨iff_of_false ?_ enough, iff_of_true ⟨_, rfl, rfl, rfl⟩ enough⟩
    rintro ⟨⟩

/-- Texts that end with a percent sign, begin with the letter of placeholders and hold one. -/
def percents : List String := ["100%", "s %s", ""]

theorem perform_template_percents :
    template percents = "100%%%ss %%s%s" ∧
    ((State.linked { handshake := .number (.int 140000) }).perform
        (Step.execute (template percents) (.tuple [.int 1, .text "%s"])).action).2.events =
      [.cursor, .statement 1 (template percents) (some [.int 1, .text "%s"])] ∧
    ∃ f, ((State.linked { handshake := .number (.int 140000) }).perform
        (Step.execute (template percents) (.list [.null])).action).1 = .error f ∧
      f.family = .execution := by
  have holds : (State.linked { handshake := .number (.int 140000) }).link =
      some { number := 1, config := { url := "crate://u@h" } } := rfl
  have access : (State.linked { handshake := .number (.int 140000) }).access =
      .driver .complete := rfl
  have two : (Datum.tuple [.int 1, .text "%s"]).elements? = some [.int 1, .text "%s"] := rfl
  have one : (Datum.list [.null]).elements? = some [.null] := rfl
  have sent := perform_template access holds rfl "100%" ["s %s", ""] two (Prod.eta _).symm
  have refused := perform_template access holds rfl "100%" ["s %s", ""] one (Prod.eta _).symm
  obtain ⟨f, failed, family, -⟩ := refused.2.2.mpr (by decide)
  exact ⟨by decide, sent.2.1.mpr rfl, f, failed, family⟩

end Session

end SystemCatalog
