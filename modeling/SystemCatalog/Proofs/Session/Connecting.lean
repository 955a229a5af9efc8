import SystemCatalog.Proofs.Session.Action
import SystemCatalog.Session.Wire

/-!
# What connecting shows

Connecting writes one record, with the label and the options of the settings, and asks the driver
once, whether the server refuses or not: `records_connect` and `events_connect`.
-/

namespace SystemCatalog.Session

open Connection (Config Options)
open Journal (Record Level)
open Session.Action

variable {s : State} {c : Config} {options : Options} {label : String} {driver : Driver}

def connectingRecords (c : Config) : List Record :=
  match c.driverOptions, c.label with
  | .ok options, .ok label => [{
      logger := Journal.loggerName wireLogger
      level := Level.info
      message := connectingMessage label options }]
  | _, _ => []

def connectingEvents (c : Config) : List Event :=
  match c.driverOptions, c.label, c.conninfo with
  | .ok options, .ok _, .ok conninfo =>
    if acceptable options then
      [.connecting conninfo ((.text "autocommit", c.autocommit) :: options)]
    else []
  | _, _, _ => []

theorem ofExcept_run {α : Type} {x : Except Fault α} {y : α} (ok : x = .ok y) (s : State) :
    (ofExcept x : Action α) s = .ok y s := by
  rw [ok]
  rfl

theorem ofExcept_fail {α : Type} {x : Except Fault α} {f : Fault} (error : x = .error f)
    (s : State) : (ofExcept x : Action α) s = .error f s := by
  rw [error]
  rfl

theorem get_run (s : State) : (get : Action State) s = .ok s s := rfl

theorem report_run (logger message : String) (level : Level) (s : State) :
    report logger level message s =
      .ok () (s.noted [] [{ logger := Journal.loggerName logger, level, message }]) := by
  simp only [State.noted, List.append_nil]
  rfl

theorem emit_run (e : Event) (s : State) : emit e s = .ok () (s.noted [e] []) := by
  simp only [State.noted, List.append_nil]
  rfl

theorem openLink_final (c : Config) (s : State) : ∃ t, (t = s ∨ t = s.opened c) ∧
    (openLink c).final s = t.noted (connectingEvents c) (connectingRecords c) := by
  unfold connectingEvents connectingRecords
  rw [openLink]
  cases given : c.driverOptions with
  | error f =>
    rw [final_bind_error (ofExcept_fail rfl s)]
    exact ⟨s, Or.inl rfl, (State.noted_nil s).symm⟩
  | ok options =>
    rw [final_bind_ok (ofExcept_run rfl s)]
    cases labelled : c.label with
    | error f =>
      rw [final_bind_error (ofExcept_fail rfl s)]
      exact ⟨s, Or.inl rfl, (State.noted_nil s).symm⟩
    | ok label =>
      rw [final_bind_ok (ofExcept_run rfl s)]
      rw [final_bind_ok (report_run _ _ _ s)]
      cases taken : acceptable options with
      | false =>
        refine ⟨s, Or.inl rfl, ?_⟩
        cases written : c.conninfo with
        | error f => rfl
        | ok conninfo =>
          dsimp only
          rw [taken]
          rfl
      | true =>
        -- From here on only the server can refuse, and by then the driver has been asked.
        rw [if_neg (by decide)]
        cases written : c.conninfo with
        | error f => exact ⟨s, Or.inl rfl, final_bind_error (ofExcept_fail rfl _)⟩
        | ok conninfo =>
          dsimp only
          rw [taken, if_pos rfl, final_bind_ok (ofExcept_run rfl _), final_bind_ok (emit_run _ _),
            State.noted_noted, final_bind_ok (get_run _), State.server_noted]
          cases refusing : s.server.refusing with
          | true => exact ⟨s, Or.inl rfl, rfl⟩
          | false => exact ⟨s.opened c, Or.inr rfl, rfl⟩

theorem connect_final (reached : s.access = .driver driver) (there : driver ≠ .missing)
    (c : Config) : (connect c).final s = (openLink c).final s := by
  rw [connect, final_bind_ok (get_run s), reached]
  cases driver with
  | missing => exact absurd rfl there
  | complete => rfl
  | withoutErrors => rfl

theorem connect_final_unreached (unreached : s.access = .direct ∨ s.access = .driver .missing)
    (c : Config) : (connect c).final s = s := by
  rw [connect, final_bind_ok (get_run s)]
  rcases unreached with direct | missing
  · rw [direct]
    rfl
  · rw [missing]
    rfl

theorem records_connect (reached : s.access = .driver driver) (there : driver ≠ .missing)
    (c : Config) : ((connect c).final s).records = s.records ++ connectingRecords c := by
  obtain ⟨t, same, noted⟩ := openLink_final c s
  rw [connect_final reached there, noted]
  rcases same with rfl | rfl
  · rfl
  · rfl

theorem events_connect (reached : s.access = .driver driver) (there : driver ≠ .missing)
    (c : Config) : ((connect c).final s).events = s.events ++ connectingEvents c := by
  obtain ⟨t, same, noted⟩ := openLink_final c s
  rw [connect_final reached there, noted]
  rcases same with rfl | rfl
  · rfl
  · rfl

end SystemCatalog.Session
