import SystemCatalog.Proofs.Session.Action
import SystemCatalog.Session.Opening

/-!
# What the wire does

Each operation of the wire either only notes events and log records, or replaces the connection by
a new one before it does.  A statement is sent on the connection that is then the session's own.
-/

namespace SystemCatalog.Session

open Connection (Config Options)
open Journal (Record Level)
open Session.Action

variable {s t : State} {f : Fault} {config : Config} {link : Link} {driver : Driver}

namespace Event

/-- Whether the event asks the server something. -/
def asks : Event → Bool
  | statement .. => true
  | handshake _ => true
  | _ => false

end Event

/-- Events that ask the server nothing and give no connection: the server refuses those that the
driver is asked for. -/
def Vain (s : State) (events : List Event) : Prop :=
  ∀ e ∈ events, e.asks = false ∧ (e.isConnecting = true → s.server.refusing = true)

theorem vain_nil : Vain s [] := by
  intro e mem
  cases mem

theorem vain_connecting (refusing : s.server.refusing = true) (conninfo : String)
    (options : Options) : Vain s [.connecting conninfo options] := by
  intro e mem
  obtain rfl := List.mem_singleton.mp mem
  exact ⟨rfl, fun _ => refusing⟩

/-! ### Opening connections -/

theorem opened_noted (s : State) (config : Config) (events : List Event) (records : List Record) :
    (s.noted events records).opened config = (s.opened config).noted events records := rfl

theorem openLink_ok (h : openLink config s = .ok link t) :
    link = s.nextLink config ∧ s.server.refusing = false ∧
      ∃ conninfo options records,
        t = (s.opened config).noted [.connecting conninfo options] records := by
  unfold openLink at h
  obtain ⟨options, _, read, h⟩ := bind_ok h
  obtain ⟨-, rfl⟩ := ofExcept_ok read
  obtain ⟨label, _, read, h⟩ := bind_ok h
  obtain ⟨-, rfl⟩ := ofExcept_ok read
  obtain ⟨_, _, reported, h⟩ := bind_ok h
  obtain ⟨record, rfl⟩ := report_ok reported
  split at h
  · obtain ⟨_, _, refused, -⟩ := bind_ok h
    cases refused
  · obtain ⟨conninfo, _, read, h⟩ := bind_ok h
    obtain ⟨-, rfl⟩ := ofExcept_ok read
    obtain ⟨_, _, emitted, h⟩ := bind_ok h
    obtain rfl := emit_ok emitted
    obtain ⟨now, _, current, h⟩ := bind_ok h
    obtain ⟨rfl, rfl⟩ := get_ok current
    split at h
    · obtain ⟨_, _, refused, -⟩ := bind_ok h
      cases refused
    · next accepted =>
      cases h
      refine ⟨rfl, by simpa using accepted, conninfo,
        (.text "autocommit", config.autocommit) :: options, [record], ?_⟩
      rw [State.noted_noted, opened_noted]
      rfl

theorem openLink_error (h : openLink config s = .error f t) :
    (∃ records, t = s.noted [] records) ∨
      s.server.refusing = true ∧
        ∃ conninfo options records, t = s.noted [.connecting conninfo options] records := by
  unfold openLink at h
  rcases bind_error h with failed | ⟨options, _, read, h⟩
  · obtain ⟨-, rfl⟩ := ofExcept_error failed
    exact Or.inl ⟨[], by simp⟩
  obtain ⟨-, rfl⟩ := ofExcept_ok read
  rcases bind_error h with failed | ⟨label, _, read, h⟩
  · obtain ⟨-, rfl⟩ := ofExcept_error failed
    exact Or.inl ⟨[], by simp⟩
  obtain ⟨-, rfl⟩ := ofExcept_ok read
  rcases bind_error h with failed | ⟨_, _, reported, h⟩
  · exact (report_error failed).elim
  obtain ⟨record, rfl⟩ := report_ok reported
  split at h
  · cases h
    exact Or.inl ⟨[record], rfl⟩
  · rcases bind_error h with failed | ⟨conninfo, _, read, h⟩
    · obtain ⟨-, rfl⟩ := ofExcept_error failed
      exact Or.inl ⟨[record], rfl⟩
    obtain ⟨-, rfl⟩ := ofExcept_ok read
    rcases bind_error h with failed | ⟨_, _, emitted, h⟩
    · exact (emit_error failed).elim
    obtain rfl := emit_ok emitted
    rcases bind_error h with failed | ⟨now, _, current, h⟩
    · cases failed
    obtain ⟨rfl, rfl⟩ := get_ok current
    split at h
    · next refusing =>
      cases h
      exact Or.inr ⟨by simpa using refusing, conninfo,
        (.text "autocommit", config.autocommit) :: options, [record], by simp⟩
    · cases h

theorem connect_ok (h : connect config s = .ok link t) :
    link = s.nextLink config ∧ s.server.refusing = false ∧
      ∃ conninfo options records,
        t = (s.opened config).noted [.connecting conninfo options] records := by
  unfold connect at h
  obtain ⟨now, _, current, h⟩ := bind_ok h
  obtain ⟨rfl, rfl⟩ := get_ok current
  cases reached : s.access with
  | direct =>
    rw [reached] at h
    cases h
  | driver d =>
    rw [reached] at h
    cases d with
    | missing => cases h
    | complete => exact openLink_ok h
    | withoutErrors => exact openLink_ok h

theorem connect_error (h : connect config s = .error f t) :
    (∃ records, t = s.noted [] records) ∨
      s.server.refusing = true ∧
        ∃ conninfo options records, t = s.noted [.connecting conninfo options] records := by
  unfold connect at h
  rcases bind_error h with failed | ⟨now, _, current, h⟩
  · cases failed
  obtain ⟨rfl, rfl⟩ := get_ok current
  cases reached : s.access with
  | direct =>
    rw [reached] at h
    cases h
    exact Or.inl ⟨[], by simp⟩
  | driver d =>
    rw [reached] at h
    cases d with
    | missing =>
      cases h
      exact Or.inl ⟨[], by simp⟩
    | complete => exact openLink_error h
    | withoutErrors => exact openLink_error h

/-- How a session comes by the connection for a statement: it holds one that the server has not
closed, or replaces one that the server has closed. -/
inductive Ready (s : State) : Link → State → Prop where
  | held {link : Link} (holds : s.link = some link) (live : link.dropped = false) : Ready s link s
  | replaced {old : Link} (holds : s.link = some old) (dropped : old.dropped = true)
      (accepted : s.server.refusing = false) (conninfo : String) (options : Options)
      (records : List Record) :
      Ready s (s.nextLink old.config)
        ((s.opened old.config).noted [.connecting conninfo options] records)

theorem Ready.server_eq (ready : Ready s link t) : t.server = s.server := by
  cases ready <;> rfl

theorem Ready.memo_eq (ready : Ready s link t) : t.memo = s.memo := by
  cases ready <;> rfl

theorem Ready.link_eq (ready : Ready s link t) : t.link = some link ∧ link.dropped = false := by
  cases ready with
  | held holds live => exact ⟨holds, live⟩
  | replaced => exact ⟨rfl, rfl⟩

theorem ensureLink_ok (h : ensureLink s = .ok link t) : Ready s link t := by
  unfold ensureLink at h
  obtain ⟨now, _, current, h⟩ := bind_ok h
  obtain ⟨rfl, rfl⟩ := get_ok current
  cases holds : s.link with
  | none =>
    rw [holds] at h
    cases h
  | some old =>
    rw [holds] at h
    dsimp only at h
    split at h
    · next dropped =>
      obtain ⟨_, _, reported, h⟩ := bind_ok h
      obtain ⟨record, rfl⟩ := report_ok reported
      obtain ⟨rfl, accepted, conninfo, options, records, rfl⟩ := connect_ok h
      rw [opened_noted, State.noted_noted]
      exact .replaced holds dropped accepted conninfo options _
    · next live =>
      obtain ⟨rfl, rfl⟩ := pure_ok h
      exact .held holds (by simpa using live)

theorem ensureLink_error (h : ensureLink s = .error f t) :
    ∃ events records, Vain s events ∧ t = s.noted events records := by
  unfold ensureLink at h
  rcases bind_error h with failed | ⟨now, _, current, h⟩
  · cases failed
  obtain ⟨rfl, rfl⟩ := get_ok current
  cases holds : s.link with
  | none =>
    rw [holds] at h
    cases h
    exact ⟨[], [], vain_nil, by simp⟩
  | some old =>
    rw [holds] at h
    dsimp only at h
    split at h
    · rcases bind_error h with failed | ⟨_, _, reported, h⟩
      · exact (report_error failed).elim
      obtain ⟨record, rfl⟩ := report_ok reported
      rcases connect_error h with ⟨records, rfl⟩ | ⟨refusing, conninfo, options, records, rfl⟩
      · exact ⟨[], _, vain_nil, State.noted_noted ..⟩
      · exact ⟨_, _, vain_connecting refusing conninfo options, State.noted_noted ..⟩
    · cases h

theorem ensureLink_of_live (holds : s.link = some link) (live : link.dropped = false) :
    ensureLink s = .ok link s := by
  have current : (get : Action State) s = .ok s s := rfl
  unfold ensureLink
  rw [bind_of_ok current, holds]
  dsimp only
  rw [live]
  rfl

/-! ### Sending statements -/

theorem sentParameters_null : sentParameters .null = none := rfl

theorem send_ok {sql : String} {parameters : Datum} {x : Unit}
    (h : send driver link sql parameters s = .ok x t) :
    s.server.failure = none ∧
      t = s.noted [.statement link.number sql (sentParameters parameters)] [] := by
  unfold send at h
  obtain ⟨_, _, emitted, h⟩ := bind_ok h
  obtain rfl := emit_ok emitted
  obtain ⟨now, _, current, h⟩ := bind_ok h
  obtain ⟨rfl, rfl⟩ := get_ok current
  cases fails : s.server.failure with
  | some failure =>
    rw [State.server_noted, fails] at h
    cases h
  | none =>
    rw [State.server_noted, fails] at h
    cases h
    exact ⟨rfl, rfl⟩

theorem send_error {sql : String} {parameters : Datum}
    (h : send driver link sql parameters s = .error f t) :
    s.server.failure ≠ none ∧
      t = s.noted [.statement link.number sql (sentParameters parameters)] [] := by
  unfold send at h
  rcases bind_error h with failed | ⟨_, _, emitted, h⟩
  · exact (emit_error failed).elim
  obtain rfl := emit_ok emitted
  rcases bind_error h with failed | ⟨now, _, current, h⟩
  · cases failed
  obtain ⟨rfl, rfl⟩ := get_ok current
  cases fails : s.server.failure with
  | some failure =>
    rw [State.server_noted, fails] at h
    cases h
    exact ⟨nofun, rfl⟩
  | none =>
    rw [State.server_noted, fails] at h
    cases h

/-- What a statement leaves behind: a connection that is ready for it, the statement on that
connection, or neither. -/
inductive Executed (s : State) (sql : String) (parameters : Datum) : State → Prop where
  | unready {events : List Event} (vain : Vain s events) (records : List Record) :
      Executed s sql parameters (s.noted events records)
  | unsent {link : Link} {t : State} (ready : Ready s link t) : Executed s sql parameters t
  | sent {link : Link} {t : State} (ready : Ready s link t) (records : List Record) :
      Executed s sql parameters (t.noted
        [.cursor, .statement link.number sql (sentParameters parameters)] records)

theorem execute_ok {sql : String} {parameters : Datum} {x : Unit}
    (access : s.access = .driver driver) (h : execute sql parameters s = .ok x t) :
    s.server.failure = none ∧ ∃ link u records, Ready s link u ∧
      t = u.noted [.cursor, .statement link.number sql (sentParameters parameters)] records := by
  unfold execute at h
  obtain ⟨now, _, current, h⟩ := bind_ok h
  obtain ⟨rfl, rfl⟩ := get_ok current
  rw [access] at h
  obtain ⟨link, u, ensured, h⟩ := bind_ok h
  have ready := ensureLink_ok ensured
  have sending : ∀ {v : State}, (do
      emit .cursor
      timed wireLogger "crate.execute" sql ((Redaction.parameters? parameters).getD .null)
        (send driver link sql parameters) : Action Unit) u = .ok x v →
      u.server.failure = none ∧ ∃ records, v =
        u.noted [.cursor, .statement link.number sql (sentParameters parameters)] records := by
    intro v h
    obtain ⟨_, _, emitted, h⟩ := bind_ok h
    obtain rfl := emit_ok emitted
    obtain ⟨_, record, sent, rfl⟩ := timed_ok h
    obtain ⟨works, rfl⟩ := send_ok sent
    exact ⟨works, [record], by simp⟩
  rw [← ready.server_eq]
  split at h
  · obtain ⟨_, _, checked, h⟩ := bind_ok h
    obtain ⟨-, rfl⟩ := ofExcept_ok checked
    obtain ⟨works, records, rfl⟩ := sending h
    exact ⟨works, link, u, records, ready, rfl⟩
  · obtain ⟨works, records, rfl⟩ := sending h
    exact ⟨works, link, u, records, ready, rfl⟩

theorem execute_error {sql : String} {parameters : Datum} (access : s.access = .driver driver)
    (h : execute sql parameters s = .error f t) : Executed s sql parameters t := by
  unfold execute at h
  rcases bind_error h with failed | ⟨now, _, current, h⟩
  · cases failed
  obtain ⟨rfl, rfl⟩ := get_ok current
  rw [access] at h
  rcases bind_error h with failed | ⟨link, u, ensured, h⟩
  · obtain ⟨events, records, vain, rfl⟩ := ensureLink_error failed
    exact .unready vain records
  have ready := ensureLink_ok ensured
  have sending : ∀ {v : State}, (do
      emit .cursor
      timed wireLogger "crate.execute" sql ((Redaction.parameters? parameters).getD .null)
        (send driver link sql parameters) : Action Unit) u = .error f v →
      Executed s sql parameters v := by
    intro v h
    rcases bind_error h with failed | ⟨_, _, emitted, h⟩
    · exact (emit_error failed).elim
    obtain rfl := emit_ok emitted
    obtain ⟨_, record, sent, rfl⟩ := timed_error h
    obtain ⟨-, rfl⟩ := send_error sent
    rw [State.noted_noted, State.noted_noted]
    exact .sent ready _
  split at h
  · rcases bind_error h with failed | ⟨_, _, checked, h⟩
    · obtain ⟨-, rfl⟩ := ofExcept_error failed
      exact .unsent ready
    obtain ⟨-, rfl⟩ := ofExcept_ok checked
    exact sending h
  · exact sending h

/-- A statement without parameters fails because no connection is ready for it, or because the
server fails when it gets it. -/
theorem execute_failed {sql : String} (access : s.access = .driver driver)
    (h : execute sql .null s = .error f t) :
    (∃ events records, Vain s events ∧ t = s.noted events records) ∨
      s.server.failure ≠ none ∧ ∃ link u records, Ready s link u ∧
        t = u.noted [.cursor, .statement link.number sql none] records := by
  unfold execute at h
  rcases bind_error h with failed | ⟨now, _, current, h⟩
  · cases failed
  obtain ⟨rfl, rfl⟩ := get_ok current
  rw [access] at h
  rcases bind_error h with failed | ⟨link, u, ensured, h⟩
  · exact Or.inl (ensureLink_error failed)
  have ready := ensureLink_ok ensured
  rcases bind_error h with failed | ⟨_, _, emitted, h⟩
  · exact (emit_error failed).elim
  obtain rfl := emit_ok emitted
  obtain ⟨_, record, sent, rfl⟩ := timed_error h
  obtain ⟨fails, rfl⟩ := send_error sent
  rw [State.server_noted, ready.server_eq] at fails
  exact Or.inr ⟨fails, link, u, [record], ready, by simp [sentParameters_null]⟩

theorem execute_final {sql : String} {parameters : Datum} (access : s.access = .driver driver) :
    Executed s sql parameters ((execute sql parameters).final s) := by
  cases result : execute sql parameters s with
  | ok x t =>
    rw [final_ok result]
    obtain ⟨-, link, u, records, ready, rfl⟩ := execute_ok access result
    exact .sent ready records
  | error f t =>
    rw [final_error result]
    exact execute_error access result

theorem Executed.statement {sql text : String} {parameters : Datum} {n : Nat}
    {values : Option (List Datum)} (h : Executed s sql parameters t)
    (sent : .statement n text values ∈ t.events.drop s.events.length) :
    text = sql ∧ ∃ link u, Ready s link u ∧ n = link.number ∧ t.generation = u.generation ∧
      t.server = s.server := by
  have none_ready : ∀ {link : Link} {u : State}, Ready s link u →
      .statement n text values ∉ u.events.drop s.events.length := by
    intro link u ready mem
    cases ready with
    | held => simp at mem
    | replaced => simp [State.opened] at mem
  cases h with
  | unready vain records =>
    rw [State.events_noted, List.drop_left] at sent
    cases (vain _ sent).1
  | unsent ready => exact (none_ready ready sent).elim
  | sent ready records =>
    rename_i link u
    have longer : s.events.length ≤ u.events.length := by
      cases ready with
      | held => exact Nat.le_refl _
      | replaced => simp [State.opened]
    rw [State.events_noted, List.drop_append_of_le_length longer, List.mem_append] at sent
    rcases sent with earlier | sent
    · exact (none_ready ready earlier).elim
    · simp only [List.mem_cons, reduceCtorEq, false_or, List.not_mem_nil, or_false,
        Event.statement.injEq] at sent
      obtain ⟨rfl, rfl, -⟩ := sent
      exact ⟨rfl, link, u, ready, rfl, rfl, ready.server_eq⟩

/-! ### Closing connections -/

theorem close_final (s : State) :
    s.link = none ∧ close.final s = s ∨
      (∃ link, s.link = some link) ∧
        close.final s = { s.noted [.closing] [] with link := none } := by
  cases holds : s.link with
  | none =>
    left
    refine ⟨rfl, ?_⟩
    have current : (get : Action State) s = .ok s s := rfl
    unfold close
    rw [final_bind_ok current, holds]
    rfl
  | some link =>
    right
    refine ⟨⟨link, rfl⟩, ?_⟩
    cases result : close s with
    | ok x t =>
      rw [final_ok result]
      unfold close at result
      obtain ⟨now, _, current, result⟩ := bind_ok result
      obtain ⟨rfl, rfl⟩ := get_ok current
      rw [holds] at result
      obtain ⟨_, _, emitted, result⟩ := bind_ok result
      obtain rfl := emit_ok emitted
      obtain ⟨_, _, detached, result⟩ := bind_ok result
      cases detached
      split at result
      · cases result
      · cases result
        rfl
    | error f t =>
      rw [final_error result]
      unfold close at result
      rcases bind_error result with failed | ⟨now, _, current, result⟩
      · cases failed
      obtain ⟨rfl, rfl⟩ := get_ok current
      rw [holds] at result
      rcases bind_error result with failed | ⟨_, _, emitted, result⟩
      · exact (emit_error failed).elim
      obtain rfl := emit_ok emitted
      rcases bind_error result with failed | ⟨_, _, detached, result⟩
      · cases failed
      cases detached
      split at result
      · cases result
        rfl
      · cases result

/-! ### The handshake -/

theorem handshake_ok {v : Version} (access : s.access = .driver driver)
    (h : handshake s = .ok v t) :
    s.server.handshake.read = .ok v ∧ ∃ link u, Ready s link u ∧
      t = u.noted [.handshake link.number] [] := by
  unfold handshake at h
  obtain ⟨now, _, current, h⟩ := bind_ok h
  obtain ⟨rfl, rfl⟩ := get_ok current
  rw [access] at h
  obtain ⟨link, u, ensured, h⟩ := bind_ok h
  split at h
  · obtain ⟨_, _, refused, -⟩ := bind_ok h
    cases refused
  · obtain ⟨_, _, emitted, h⟩ := bind_ok h
    obtain rfl := emit_ok emitted
    obtain ⟨read, rfl⟩ := ofExcept_ok h
    exact ⟨read, link, u, ensureLink_ok ensured, rfl⟩

theorem handshake_of_live {v : Version} (access : s.access = .driver driver)
    (holds : s.link = some link) (live : link.dropped = false) (audible : link.silent = false)
    (read : s.server.handshake.read = .ok v) :
    handshake s = .ok v (s.noted [.handshake link.number] []) := by
  have current : (get : Action State) s = .ok s s := rfl
  have emitted : emit (.handshake link.number) s =
      .ok () (s.noted [.handshake link.number] []) := by
    simp only [State.noted, List.append_nil]
    rfl
  unfold handshake
  rw [bind_of_ok current, access]
  dsimp only
  rw [bind_of_ok (ensureLink_of_live holds live), audible]
  show (emit _ >>= fun _ => ofExcept s.server.handshake.read) s = _
  rw [bind_of_ok emitted, read]
  rfl

theorem handshake_error (access : s.access = .driver driver) (h : handshake s = .error f t) :
    (∃ events records, Vain s events ∧ t = s.noted events records) ∨
      ∃ link u events, Ready s link u ∧
        (∀ e ∈ events, e = .handshake link.number ∧ ∃ f, s.server.handshake.read = .error f) ∧
        t = u.noted events [] := by
  unfold handshake at h
  rcases bind_error h with failed | ⟨now, _, current, h⟩
  · cases failed
  obtain ⟨rfl, rfl⟩ := get_ok current
  rw [access] at h
  rcases bind_error h with failed | ⟨link, u, ensured, h⟩
  · exact Or.inl (ensureLink_error failed)
  have ready := ensureLink_ok ensured
  split at h
  · cases h
    exact Or.inr ⟨link, _, [], ready, by simp, by simp⟩
  · rcases bind_error h with failed | ⟨_, _, emitted, h⟩
    · exact (emit_error failed).elim
    obtain rfl := emit_ok emitted
    obtain ⟨unread, rfl⟩ := ofExcept_error h
    refine Or.inr ⟨link, u, [.handshake link.number], ready, fun e mem => ?_, rfl⟩
    exact ⟨List.mem_singleton.mp mem, f, unread⟩

end SystemCatalog.Session
