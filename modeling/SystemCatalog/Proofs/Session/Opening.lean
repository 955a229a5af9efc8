import SystemCatalog.Proofs.Session.Readings
import SystemCatalog.Session.Opening

/-!
# The connection of a session

The generation of a session counts the connections that the driver has opened, and its rule for
literals is that of the connection it holds, whatever fails and whenever connections drop:
`after_orderly`.
-/

namespace SystemCatalog.Session

open Connection (Config Options)
open Journal (Record)
open Session.Action

variable {s t : State} {f : Fault} {link : Link} {driver : Driver}

/-! ### What has been opened -/

namespace State

@[simp] theorem events_opened (s : State) (config : Config) :
    (s.opened config).events = s.events := rfl

theorem openings_concat (past : List State) (t : State) :
    openings (past ++ [t]) = openings past + t.accepted := by
  simp [openings]

theorem Same.access_eq {t : State} (same : s.Same t) : t.access = s.access := by
  unfold Same at same
  have field := congrArg State.access same
  exact field

theorem Same.generation_eq {t : State} (same : s.Same t) : t.generation = s.generation := by
  unfold Same at same
  have field := congrArg State.generation same
  exact field

theorem Same.quoting_eq {t : State} (same : s.Same t) : t.quoting = s.quoting := by
  unfold Same at same
  have field := congrArg State.quoting same
  exact field

theorem Same.link_eq {t : State} (same : s.Same t) : t.link = s.link := by
  unfold Same at same
  have field := congrArg State.link same
  exact field

theorem Same.memo_eq {t : State} (same : s.Same t) : t.memo = s.memo := by
  unfold Same at same
  have field := congrArg State.memo same
  exact field

theorem lastPeer?_concat (past : List State) (t : State) :
    lastPeer? (past ++ [t]) = if t.accepted = 0 then lastPeer? past else some t.server := by
  unfold lastPeer?
  by_cases none : t.accepted = 0 <;> simp [none]

end State

/-- What a step that works on the connection leaves behind: the session as it was, or one with a new
connection for which `may` holds of the settings. -/
inductive Wired (may : Config → Prop) (s : State) : State → Prop where
  | kept {events : List Event}
      (unopened : ∀ e ∈ events, e.isConnecting = true → s.server.refusing = true)
      (sent : ∀ n sql parameters, .statement n sql parameters ∈ events →
        ∃ link, s.link = some link ∧ link.number = n ∧ link.dropped = false)
      (records : List Record) : Wired may s (s.noted events records)
  | opened {config : Config} (allowed : may config) (accepting : s.server.refusing = false)
      (conninfo : String) (options : Options) {later : List Event}
      (once : ∀ e ∈ later, e.isConnecting = false)
      (sent : ∀ n sql parameters, .statement n sql parameters ∈ later → n = s.generation + 1)
      (records : List Record) :
      Wired may s ((s.opened config).noted (.connecting conninfo options :: later) records)

def Replaces (s : State) (config : Config) : Prop :=
  ∃ link, s.link = some link ∧ link.dropped = true ∧ link.config = config

theorem Wired.vain (may : Config → Prop) {events : List Event} (vain : Vain s events)
    (records : List Record) : Wired may s (s.noted events records) :=
  .kept (fun e mem => (vain e mem).2) (fun _ _ _ mem => by cases (vain _ mem).1) records

theorem Ready.wired {events : List Event} (ready : Ready s link t)
    (once : ∀ e ∈ events, e.isConnecting = false)
    (sent : ∀ n sql parameters, .statement n sql parameters ∈ events → n = link.number)
    (records : List Record) : Wired (Replaces s) s (t.noted events records) := by
  cases ready with
  | held holds live =>
    refine .kept (fun e mem asked => ?_) (fun n sql parameters mem => ?_) records
    · rw [once e mem] at asked
      cases asked
    · exact ⟨link, holds, (sent n sql parameters mem).symm, live⟩
  | replaced holds dropped accepting conninfo options before =>
    rw [State.noted_noted]
    exact .opened ⟨_, holds, dropped, rfl⟩ accepting conninfo options once sent (before ++ records)

theorem Executed.wired {sql : String} {parameters : Datum} (h : Executed s sql parameters t) :
    Wired (Replaces s) s t := by
  cases h with
  | unready vain records => exact .vain _ vain records
  | unsent ready =>
    have wired : Wired (Replaces s) s (t.noted [] []) := ready.wired (by simp) (by simp) []
    rwa [State.noted_nil] at wired
  | sent ready records =>
    refine ready.wired ?_ ?_ records
    · simp [Event.isConnecting]
    · rintro n text values mem
      simp only [List.mem_cons, reduceCtorEq, Event.statement.injEq, List.not_mem_nil, or_false,
        false_or] at mem
      exact mem.1

theorem handshake_wired (access : s.access = .driver driver) :
    Wired (Replaces s) s (handshake.final s) := by
  cases result : handshake s with
  | ok v t =>
    rw [final_ok result]
    obtain ⟨-, link, u, ready, rfl⟩ := handshake_ok access result
    exact ready.wired (by simp [Event.isConnecting]) (by simp) []
  | error f t =>
    rw [final_error result]
    rcases handshake_error access result with ⟨events, records, vain, rfl⟩ |
      ⟨link, u, events, ready, asked, rfl⟩
    · exact .vain _ vain records
    · refine ready.wired (fun e mem => ?_) (fun n sql parameters mem => ?_) []
      · rw [(asked e mem).1]
        rfl
      · cases (asked _ mem).1

/-! ### Steps that work on the connection -/

namespace Wired

variable {may : Config → Prop}

theorem changes (h : Wired may s t) (unseen : s.events = []) :
    (t.accepted = 0 ∧ s.Same t) ∨
      (t.accepted = 1 ∧ t.server = s.server ∧ ∃ config, may config ∧ (s.opened config).Same t) := by
  cases h with
  | kept unopened sent records =>
    refine Or.inl ⟨?_, rfl⟩
    unfold State.accepted
    split
    · rfl
    · next accepting =>
      rw [State.events_noted, unseen, List.nil_append, List.countP_eq_zero]
      exact fun e mem asked => accepting (unopened e mem asked)
  | opened allowed accepting conninfo options once sent records =>
    rename_i config later
    refine Or.inr ⟨?_, rfl, config, allowed, rfl⟩
    have others := List.countP_eq_zero.mpr fun e mem => Bool.eq_false_iff.mp (once e mem)
    have asked : (s.opened config).server.refusing = false := accepting
    simp only [State.accepted, State.server_noted, asked, Bool.false_eq_true, if_false,
      State.events_noted, State.events_opened, unseen, List.nil_append]
    rw [List.countP_cons_of_pos rfl, others]

theorem sent (h : Wired may s t) (unseen : s.events = [])
    (last : ∀ link, s.link = some link → link.number = s.generation) {n : Nat} {sql : String}
    {parameters : Option (List Datum)} (mem : .statement n sql parameters ∈ t.events) :
    n = t.generation ∧ (n ≤ s.generation →
      ∃ link, s.link = some link ∧ link.number = n ∧ link.dropped = false) := by
  cases h with
  | kept _ sent _ =>
    rw [State.events_noted, unseen, List.nil_append] at mem
    obtain ⟨link, holds, rfl, live⟩ := sent n sql parameters mem
    exact ⟨last link holds, fun _ => ⟨link, holds, rfl, live⟩⟩
  | opened _ _ _ _ _ sent _ =>
    rw [State.events_noted, State.events_opened, unseen, List.nil_append] at mem
    obtain rfl := sent n sql parameters (by simpa using mem)
    refine ⟨rfl, fun early => ?_⟩
    omega

end Wired

theorem connecting_ok {request : Connection.Request} {reply : Reply}
    (h : (Step.connect request).action s = .ok reply t) :
    reply = .nothing ∧ Wired (fun _ => True) s t ∧ t.generation = s.generation + 1 := by
  obtain ⟨config, _, converted, h⟩ := bind_ok h
  obtain ⟨-, rfl⟩ := ofExcept_ok converted
  obtain ⟨link, u, opened, h⟩ := bind_ok h
  obtain ⟨rfl, rfl⟩ := pure_ok h
  obtain ⟨-, accepting, conninfo, options, records, rfl⟩ := connect_ok opened
  exact ⟨rfl, .opened trivial accepting conninfo options (by simp) (by simp) records, rfl⟩

theorem connecting_error {request : Connection.Request}
    (h : (Step.connect request).action s = .error f t) :
    ∃ events records, Vain s events ∧ t = s.noted events records := by
  rcases bind_error h with failed | ⟨config, _, converted, h⟩
  · obtain ⟨-, rfl⟩ := ofExcept_error failed
    exact ⟨[], [], vain_nil, by simp⟩
  obtain ⟨-, rfl⟩ := ofExcept_ok converted
  rcases bind_error h with failed | ⟨link, u, opened, h⟩
  · rcases connect_error failed with ⟨records, rfl⟩ | ⟨refusing, conninfo, options, records, rfl⟩
    · exact ⟨[], records, vain_nil, rfl⟩
    · exact ⟨_, records, vain_connecting refusing conninfo options, rfl⟩
  · cases h

theorem connecting_wired (request : Connection.Request) (s : State) :
    Wired (fun _ => True) s ((Step.connect request).action.final s) := by
  cases result : (Step.connect request).action s with
  | ok reply t =>
    rw [final_ok result]
    exact (connecting_ok result).2.1
  | error f t =>
    rw [final_error result]
    obtain ⟨events, records, vain, rfl⟩ := connecting_error result
    exact .vain _ vain records

theorem final_bind_of_final {α β : Type} {a : Action α} {b : α → Action β}
    (same : ∀ x u, (b x).final u = u) (s : State) : (a >>= b).final s = a.final s := by
  cases result : a s with
  | ok x u => rw [final_bind_ok result, final_ok result, same]
  | error f u => rw [final_bind_error result, final_error result]

theorem closing_final (s : State) : State.Same { s with link := none } (Step.close.action.final s) ∧
    ∀ e ∈ (Step.close.action.final s).events, e ∈ s.events ∨ e = .closing := by
  have closing : Step.close.action.final s = close.final s :=
    final_bind_of_final (fun _ _ => rfl) s
  rw [closing]
  rcases close_final s with ⟨unheld, same⟩ | ⟨-, same⟩
  · rw [same]
    refine ⟨?_, fun e mem => Or.inl mem⟩
    have unlinked : { s with link := none } = s := by rw [← unheld]
    rw [unlinked]
    rfl
  · rw [same]
    refine ⟨rfl, fun e mem => ?_⟩
    simpa using mem

theorem executing_wired (access : s.access = .driver driver) (sql : String) (parameters : Datum) :
    Wired (Replaces s) s ((Step.execute sql parameters).action.final s) := by
  have same : (Step.execute sql parameters).action.final s = (execute sql parameters).final s :=
    final_bind_of_final (fun _ _ => rfl) s
  rw [same]
  exact (execute_final access).wired

theorem shaking_wired (access : s.access = .driver driver) :
    Wired (Replaces s) s (Step.handshake.action.final s) := by
  have same : Step.handshake.action.final s = handshake.final s :=
    final_bind_of_final (fun _ _ => rfl) s
  rw [same]
  exact handshake_wired access

/-- Only a new connection is ready where one has dropped. -/
theorem Ready.generation_of_dropped (ready : Ready s link t) (dropped : s.Dropped) :
    t.generation = s.generation + 1 := by
  cases ready with
  | held holds live =>
    obtain ⟨old, eq, gone⟩ := dropped
    rw [holds] at eq
    cases eq
    rw [live] at gone
    cases gone
  | replaced => rfl

theorem replaced_of_ok (access : s.access = .driver driver) (dropped : s.Dropped) {step : Step}
    (asks : step = .handshake ∨ ∃ sql parameters, step = .execute sql parameters) {reply : Reply}
    (h : step.action s = .ok reply t) : t.generation = s.generation + 1 := by
  rcases asks with rfl | ⟨sql, parameters, rfl⟩
  · obtain ⟨v, u, shaken, h⟩ := bind_ok h
    obtain ⟨-, rfl⟩ := pure_ok h
    obtain ⟨-, link, w, ready, rfl⟩ := handshake_ok access shaken
    exact ready.generation_of_dropped dropped
  · obtain ⟨x, u, executed, h⟩ := bind_ok h
    obtain ⟨now, w, current, h⟩ := bind_ok h
    obtain ⟨rfl, rfl⟩ := get_ok current
    obtain ⟨-, rfl⟩ := pure_ok h
    obtain ⟨-, link, v, records, ready, rfl⟩ := execute_ok access executed
    exact ready.generation_of_dropped dropped

theorem execute_unheld (access : s.access = .driver driver) (unheld : s.link = none)
    (sql : String) (parameters : Datum) :
    s.perform (Step.execute sql parameters).action = (.error .notConnected, s.cleared) := by
  cases s
  cases access
  cases unheld
  rfl

/-! ### The invariant -/

/-- A session agrees with the connections that have been opened in it. -/
structure Tracked (past : List State) (s : State) : Prop where
  driver : ∃ driver, s.access = .driver driver
  generation : s.generation = State.openings past
  number : ∀ link, s.link = some link → link.number = s.generation
  quoting : ∀ link, s.link = some link → ∃ peer, State.lastPeer? past = some peer ∧
    s.quoting = peer.quoting

namespace Tracked

variable {past : List State}

theorem start {server : Server} {driver : Driver} {threshold : Datum} {start : State}
    (h : State.overDriver server driver threshold = .ok start) : Tracked [] start := by
  unfold State.overDriver at h
  obtain ⟨given, -, h⟩ := bind_eq_ok h
  obtain ⟨milliseconds, -, h⟩ := bind_eq_ok h
  cases h
  refine ⟨⟨driver, rfl⟩, rfl, ?_, ?_⟩
  · intro link eq
    cases eq
  · intro link eq
    cases eq

theorem unopened (h : Tracked past s) (none : t.accepted = 0) (access : t.access = s.access)
    (generation : t.generation = s.generation) (quoting : t.quoting = s.quoting)
    (link : ∀ link, t.link = some link → ∃ old, s.link = some old ∧ link.number = old.number) :
    Tracked (past ++ [t]) t := by
  refine ⟨by rw [access]; exact h.driver, ?_, ?_, ?_⟩
  · rw [State.openings_concat, none, generation, h.generation]
    rfl
  · intro new holds
    obtain ⟨old, held, same⟩ := link new holds
    rw [same, generation]
    exact h.number old held
  · intro new holds
    obtain ⟨old, held, -⟩ := link new holds
    rw [State.lastPeer?_concat, if_pos none, quoting]
    exact h.quoting old held

theorem wired (h : Tracked past s) {may : Config → Prop} (wired : Wired may s.cleared t) :
    Tracked (past ++ [t]) t := by
  rcases wired.changes rfl with ⟨none, same⟩ | ⟨one, server, config, -, same⟩
  · exact h.unopened none same.access_eq same.generation_eq same.quoting_eq fun link holds =>
      ⟨link, same.link_eq.symm.trans holds, rfl⟩
  · have generation : t.generation = s.generation + 1 := same.generation_eq
    refine ⟨?_, ?_, ?_, ?_⟩
    · rw [same.access_eq]
      exact h.driver
    · rw [State.openings_concat, one, generation, h.generation]
    · intro new holds
      rw [same.link_eq] at holds
      cases holds
      exact generation.symm
    · intro new _
      have quoting : t.quoting = s.server.quoting := same.quoting_eq
      rw [State.lastPeer?_concat, if_neg (by omega), quoting]
      exact ⟨t.server, rfl, by rw [server]; rfl⟩

theorem closed (h : Tracked past s) :
    Tracked (past ++ [Step.close.action.final s.cleared]) (Step.close.action.final s.cleared) := by
  obtain ⟨same, quiet⟩ := closing_final s.cleared
  have unlinked : (Step.close.action.final s.cleared).link = none := same.link_eq
  refine h.unopened ?_ same.access_eq same.generation_eq same.quoting_eq fun link holds => ?_
  · unfold State.accepted
    split
    · rfl
    · exact List.countP_eq_zero.mpr fun e mem asked => by
        rcases quiet e mem with old | rfl
        · cases old
        · cases asked
  · rw [unlinked] at holds
    cases holds

theorem step (h : Tracked past s) {step : Step} (wire : step.isWire = true) :
    Tracked (past ++ [(s.perform step.action).2]) (s.perform step.action).2 := by
  obtain ⟨driver, access⟩ := h.driver
  have reached : s.cleared.access = .driver driver := access
  rw [State.perform_snd]
  cases step with
  | alter g =>
    refine h.unopened ?_ rfl rfl rfl fun link holds => ⟨link, holds, rfl⟩
    unfold State.accepted
    split <;> rfl
  | drop =>
    refine h.unopened ?_ rfl rfl rfl fun link holds => ?_
    · unfold State.accepted
      split <;> rfl
    · obtain ⟨old, held, rfl⟩ := Option.map_eq_some_iff.mp holds
      exact ⟨old, held, rfl⟩
  | connect request => exact h.wired (connecting_wired request s.cleared)
  | close => exact h.closed
  | execute sql parameters => exact h.wired (executing_wired reached sql parameters)
  | handshake => exact h.wired (shaking_wired reached)
  | _ => cases wire

theorem after (h : Tracked past s) (steps : List Step) (wire : ∀ step ∈ steps, step.isWire = true) :
    Tracked (past ++ s.trace steps) (s.after steps) := by
  induction steps generalizing past s with
  | nil =>
    rw [State.trace, List.append_nil]
    exact h
  | cons step rest ih =>
    have stepped := h.step (wire step List.mem_cons_self)
    have rest := ih stepped fun other mem => wire other (List.mem_cons_of_mem _ mem)
    rw [List.append_assoc] at rest
    exact rest

theorem orderly (h : Tracked past s) {step : Step} (wire : step.isWire = true) :
    Orderly s step (s.perform step.action).1 (s.perform step.action).2 where
  sent n sql parameters mem := by
    obtain ⟨driver, access⟩ := h.driver
    have reached : s.cleared.access = .driver driver := access
    rw [State.perform_snd] at mem ⊢
    cases step with
    | alter g => cases mem
    | drop => cases mem
    | connect request => exact (connecting_wired request s.cleared).sent rfl h.number mem
    | close =>
      rcases (closing_final s.cleared).2 _ mem with old | closing
      · cases old
      · cases closing
    | execute text values => exact (executing_wired reached text values).sent rfl h.number mem
    | handshake => exact (shaking_wired reached).sent rfl h.number mem
    | _ => cases wire
  kept asks := by
    obtain ⟨driver, access⟩ := h.driver
    have reached : s.cleared.access = .driver driver := access
    have wired : Wired (Replaces s.cleared) s.cleared (s.perform step.action).2 := by
      rw [State.perform_snd]
      rcases asks with rfl | ⟨sql, parameters, rfl⟩
      · exact shaking_wired reached
      · exact executing_wired reached sql parameters
    rcases wired.changes rfl with ⟨none, same⟩ | ⟨one, -, _, ⟨link, holds, dropped, rfl⟩, same⟩
    · refine Or.inl ⟨none, same, fun gone => ?_⟩
      cases outcome : (s.perform step.action).1 with
      | error f => exact ⟨f, rfl⟩
      | ok reply =>
        have returned : s.perform step.action = (.ok reply, (s.perform step.action).2) := by
          rw [← outcome]
        have replaced := replaced_of_ok reached gone asks (State.perform_ok returned)
        have still : (s.perform step.action).2.generation = s.generation := same.generation_eq
        have later : (s.perform step.action).2.generation = s.generation + 1 := replaced
        omega
    · exact Or.inr ⟨one, link, holds, dropped, same⟩
  connected request is := by
    subst is
    cases result : s.perform (Step.connect request).action with
    | mk outcome t =>
      cases outcome with
      | error f =>
        obtain ⟨events, records, vain, rfl⟩ := connecting_error (State.perform_error result)
        rcases (Wired.vain (fun _ => False) vain records).changes rfl with
          ⟨none, same⟩ | ⟨-, -, _, impossible, -⟩
        · exact Or.inl ⟨f, rfl, none, same⟩
        · exact impossible.elim
      | ok reply =>
        obtain ⟨rfl, wired, later⟩ := connecting_ok (State.perform_ok result)
        rcases wired.changes rfl with ⟨-, same⟩ | ⟨one, -, config, -, same⟩
        · have still := same.generation_eq
          omega
        · exact Or.inr ⟨rfl, one, config, same⟩
  closed is := by
    subst is
    obtain ⟨driver, access⟩ := h.driver
    rw [State.perform_snd]
    obtain ⟨same, -⟩ := closing_final s.cleared
    refine ⟨same, fun sql parameters => ?_⟩
    have reached : (Step.close.action.final s.cleared).access = .driver driver :=
      same.access_eq.trans access
    exact execute_unheld reached same.link_eq sql parameters
  unheld empty := by
    obtain ⟨driver, access⟩ := h.driver
    have reached : s.cleared.access = .driver driver := access
    refine ⟨?_, fun held => ?_⟩
    · rintro sql parameters rfl
      rw [execute_unheld access empty]
      exact ⟨rfl, rfl⟩
    · rw [State.perform_snd] at held
      have kept {t : State} (wired : Wired (Replaces s.cleared) s.cleared t) : t.link = none := by
        rcases wired.changes rfl with ⟨-, same⟩ | ⟨-, -, _, ⟨link, holds, -, -⟩, -⟩
        · exact same.link_eq.trans empty
        · rw [show s.cleared.link = none from empty] at holds
          cases holds
      cases step with
      | alter g => exact absurd empty held
      | drop => exact absurd (congrArg (Option.map _) empty) held
      | connect request => exact ⟨request, rfl⟩
      | close => exact absurd (closing_final s.cleared).1.link_eq held
      | execute sql parameters => exact absurd (kept (executing_wired reached sql parameters)) held
      | handshake => exact absurd (kept (shaking_wired reached)) held
      | _ => cases wire

end Tracked

theorem Server.quoting_eq_standard_iff (s : Server) :
    s.quoting = .standard ↔
      s.silent = true ∨ s.standardStrings = .null ∨ s.standardStrings = .text "on" := by
  obtain ⟨-, -, -, -, -, -, -, strings, silent, -, -⟩ := s
  cases silent <;> cases strings <;>
    simp [Server.quoting, Datum.isNull, Datum.same, Datum.numeric?, Sql.Quoting.ofConforming]

/-- After any steps on the connection, the generation is the number of connections that the driver
has opened; a connection that is held is the last of them, and the rule for literals is the one
that it has told; and the next step is orderly. -/
theorem after_orderly {server : Server} {driver : Driver} {threshold : Datum} {start : State}
    (started : State.overDriver server driver threshold = .ok start) (steps : List Step)
    (wire : ∀ step ∈ steps, step.isWire = true) :
    (start.after steps).generation = State.openings (start.trace steps) ∧
    (∀ link, (start.after steps).link = some link →
      link.number = (start.after steps).generation ∧
      ∃ peer, State.lastPeer? (start.trace steps) = some peer ∧
        ((start.after steps).quoting = .standard ↔
          peer.silent = true ∨ peer.standardStrings = .null ∨
            peer.standardStrings = .text "on")) ∧
    ∀ step : Step, step.isWire = true →
      Orderly (start.after steps) step ((start.after steps).perform step.action).1
        ((start.after steps).perform step.action).2 := by
  have tracked := (Tracked.start started).after steps wire
  rw [List.nil_append] at tracked
  refine ⟨tracked.generation, fun link holds => ⟨tracked.number link holds, ?_⟩,
    fun step wire => tracked.orderly wire⟩
  obtain ⟨peer, last, quoting⟩ := tracked.quoting link holds
  exact ⟨peer, last, by rw [quoting, Server.quoting_eq_standard_iff]⟩

/-- Steps in which a statement replaces a connection that has dropped by one to another server, and
the new connection drops as well. -/
def reopening : List Step :=
  [.connect ⟨.url "crate://u@h", {}, none⟩, .drop, .alter replacement,
    .execute "SELECT 1" .null, .drop]

theorem after_orderly_reopening :
    (State.fresh.after reopening).generation = 2 ∧
      State.openings (State.fresh.trace reopening) = 2 ∧
      (State.fresh.after reopening).quoting = .escaping ∧
      Orderly (State.fresh.after reopening) .close
        ((State.fresh.after reopening).perform Step.close.action).1
        ((State.fresh.after reopening).perform Step.close.action).2 := by
  have wire : ∀ step ∈ reopening, step.isWire = true := by
    intro step mem
    simp only [reopening, List.mem_cons, List.not_mem_nil, or_false] at mem
    rcases mem with rfl | rfl | rfl | rfl | rfl <;> rfl
  obtain ⟨counted, -, next⟩ := after_orderly fresh_started reopening wire
  have generation : (State.fresh.after reopening).generation = 2 := by decide +kernel
  exact ⟨generation, counted ▸ generation, by decide +kernel, next .close rfl⟩

end SystemCatalog.Session
