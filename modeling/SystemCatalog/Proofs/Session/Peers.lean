import SystemCatalog.Proofs.Session.Readings
import SystemCatalog.Session.Peer

/-!
# Statements and the connections that they are sent on

A query is written for the peer of the last connection.  It is sent on that connection unless the
connection has dropped in the meantime: then it goes to the peer of a new one, and suits it only if
the two peers are alike.
-/

namespace SystemCatalog.Session

open Catalog (Query Kind Filters)
open Connection (Config)
open Journal (Record)
open Session.Action

variable {s t : State} {f : Fault} {peer : Nat → Server}

/-- What a session knows of the peer of its last connection is right. -/
structure Acquainted (peer : Nat → Server) (s : State) : Prop where
  driver : ∃ driver, s.access = .driver driver
  link : ∀ link, s.link = some link → link.number = s.generation ∧ 0 < s.generation
  ahead : s.memo.generation ≤ s.generation
  quoting : 0 < s.generation → s.quoting = (peer s.generation).quoting
  live : s.Live → s.server.Alike (peer s.generation)
  engine : s.memo.generation = s.generation → ∀ v, s.memo.engine = some v →
    0 < s.generation ∧ (peer s.generation).version? = some v

theorem State.not_live_dropped (s : State) :
    ¬State.Live { s with link := s.link.map fun link => { link with dropped := true } } := by
  rintro ⟨link, holds, live⟩
  obtain ⟨old, -, rfl⟩ := Option.map_eq_some_iff.mp holds
  cases live

theorem Acquainted.drop (h : Acquainted peer s) :
    Acquainted peer { s with link := s.link.map fun link => { link with dropped := true } } := by
  refine { h with link := ?_, live := fun live => (s.not_live_dropped live).elim }
  intro link eq
  obtain ⟨old, holds, rfl⟩ := Option.map_eq_some_iff.mp eq
  exact h.link old holds

structure Acquainting (base : State) (peer : Nat → Server) (s : State) : Prop where
  server : s.server = base.server
  later : base.generation ≤ s.generation
  acquainted : Acquainted (base.peers s peer) s

namespace Acquainting

variable {base : State}

theorem stable : Stable (Acquainting base peer) where
  driver h := h.acquainted.driver
  noted events records h := ⟨h.server, h.later, { h.acquainted with }⟩
  opened {s} config h := by
    have ahead : s.memo.generation ≤ s.generation := h.acquainted.ahead
    have last : base.peers (s.opened config) peer (s.generation + 1) = s.server := by
      unfold State.peers
      have := h.later
      rw [if_neg (by omega)]
      rfl
    refine ⟨h.server, Nat.le_succ_of_le h.later, h.acquainted.driver, ?_, ?_, ?_, ?_, ?_⟩
    · rintro link eq
      cases eq
      exact ⟨rfl, Nat.succ_pos _⟩
    · show s.memo.generation ≤ s.generation + 1
      omega
    · intro _
      show s.server.quoting = (base.peers (s.opened config) peer (s.generation + 1)).quoting
      rw [last]
    · intro _
      show s.server.Alike (base.peers (s.opened config) peer (s.generation + 1))
      rw [last]
      exact ⟨rfl, rfl⟩
    · intro (current : s.memo.generation = s.generation + 1)
      omega
  closed h := by
    refine ⟨h.server, h.later, { h.acquainted with link := ?_, live := ?_ }⟩
    · intro _ eq
      cases eq
    · rintro ⟨_, eq, -⟩
      cases eq

theorem checked (h : Acquainting base peer s) : Acquainting base peer s.checked := by
  rcases checked_cases s with ⟨-, eq⟩ | ⟨-, eq⟩
  · rwa [eq]
  · rw [eq]
    refine ⟨h.server, h.later, { h.acquainted with ahead := Nat.le_refl _, engine := ?_ }⟩
    intro _ v known
    cases known

theorem probed (h : Acquainting base peer s) {v : Version} (result : probe s = .ok v t) :
    0 < t.generation ∧ (base.peers t peer t.generation).version? = some v := by
  obtain ⟨driver, access⟩ := h.acquainted.driver
  have after := stable.probe.ok h result
  obtain ⟨-, read, link, u, records, ready, rfl⟩ := probe_ok access result
  obtain ⟨holds, live⟩ := ready.link_eq
  obtain ⟨-, positive⟩ := after.acquainted.link link holds
  obtain ⟨alike, -⟩ := after.acquainted.live ⟨link, holds, live⟩
  refine ⟨positive, ?_⟩
  rw [← read, ← ready.server_eq]
  exact alike.symm

theorem engine_kept (h : Acquainting base peer s) {v : Version} (result : probe s = .ok v t) :
    Acquainting base peer { t with memo := { t.memo with engine := some v } } := by
  have after := stable.probe.ok h result
  have reported := h.probed result
  refine ⟨after.server, after.later, { after.acquainted with engine := ?_ }⟩
  intro _ w known
  cases known
  exact reported

theorem invariant : Invariant (Acquainting base peer) fun _ => True where
  toStable := stable
  forgotten h := by
    refine ⟨h.server, h.later, { h.acquainted with engine := ?_ }⟩
    intro _ v known
    cases known
  restarted h := by
    refine ⟨h.server, h.later, { h.acquainted with ahead := Nat.le_refl _, engine := ?_ }⟩
    intro _ v known
    cases known
  dropped h := ⟨h.server, h.later, h.acquainted.drop⟩
  engineVersion _ := remembered_keeps stable checked stable.probe fun h result =>
    engine_kept h result
  serverVersion _ := by
    refine remembered_keeps stable checked stable.handshake ?_
    intro s x u h result
    have after := stable.handshake.ok h result
    exact ⟨after.server, after.later, { after.acquainted with }⟩
  limit c _ := by
    refine remembered_keeps stable checked (stable.readConstant c) ?_
    intro s x u h result
    have after := (stable.readConstant c).ok h result
    cases c <;> exact ⟨after.server, after.later, { after.acquainted with }⟩

theorem engineVersion_ok (h : Acquainting base peer s) {v : Version}
    (result : engineVersion s = .ok v t) :
    0 < t.generation ∧ (base.peers t peer t.generation).version? = some v := by
  unfold engineVersion at result
  rcases remembered_ok result with ⟨records, known, rfl⟩ | ⟨records, u, -, computed, rfl⟩
  · exact h.checked.acquainted.engine (by simp) v known
  · have reported := probed (stable.noted [] records h.checked) computed
    exact reported

end Acquainting

/-! ### Reachable states -/

theorem Server.Alike.trans {a b c : Server} (first : a.Alike b) (second : b.Alike c) : a.Alike c :=
  ⟨first.1.trans second.1, first.2.trans second.2⟩

namespace Acquainted

variable {other : Nat → Server}

theorem congr (h : Acquainted peer s) (same : other s.generation = peer s.generation) :
    Acquainted other s where
  driver := h.driver
  link := h.link
  ahead := h.ahead
  quoting := by rw [same]; exact h.quoting
  live := by rw [same]; exact h.live
  engine := by rw [same]; exact h.engine

theorem begins (h : Acquainted peer s) (events : List Event) (records : List Record) :
    Acquainting s peer { s with events, records } := by
  have same : Acquainted peer { s with events, records } := { h with }
  exact ⟨rfl, Nat.le_refl _, same.congr (if_pos (Nat.le_refl _))⟩

theorem alter (h : Acquainted peer s) {g : Server → Server}
    (steady : s.Live → (g s.server).Alike s.server) :
    Acquainted peer { s with server := g s.server } :=
  { h with live := fun live => (steady live).trans (h.live live) }

theorem weather (h : Acquainted peer s) (weather : Weather s t) : Acquainted peer t := by
  induction weather with
  | calm => exact h
  | drop _ ih => exact ih.drop
  | alter _ g steady ih => exact ih.alter steady

theorem start {server : Server} {driver : Driver} {threshold : Datum} {start : State}
    (h : State.overDriver server driver threshold = .ok start) : Acquainted peer start := by
  unfold State.overDriver at h
  obtain ⟨given, -, h⟩ := bind_eq_ok h
  obtain ⟨milliseconds, -, h⟩ := bind_eq_ok h
  cases h
  refine ⟨⟨driver, rfl⟩, ?_, Nat.le_refl _, ?_, ?_, ?_⟩
  · intro link eq
    cases eq
  · intro positive
    exact absurd positive (Nat.lt_irrefl 0)
  · rintro ⟨link, eq, -⟩
    cases eq
  · intro _ v eq
    cases eq

theorem step (h : Acquainted peer s) {step : Step} (driven : step.isRenewal = false)
    (steady : ∀ g, step = .alter g → s.Live → (g s.server).Alike s.server) :
    Acquainted (s.peers (s.perform step.action).2 peer) (s.perform step.action).2 := by
  rw [State.perform_snd]
  have begun : Acquainting s peer s.cleared := h.begins [] []
  by_cases change : ∃ g, step = .alter g
  · obtain ⟨g, rfl⟩ := change
    have altered : Acquainted peer { s.cleared with server := g s.server } :=
      Acquainted.alter (s := s.cleared) { h with } (steady g rfl)
    exact altered.congr (if_pos (Nat.le_refl _))
  · have kept := Acquainting.invariant.step (fun g eq => change ⟨g, eq⟩) driven
      (fun _ _ => trivial) _ begun
    exact kept.acquainted

end Acquainted

/-! ### Lookups -/

theorem forM_report_ok {α : Type} {logger : String} {level : Journal.Level} {message : α → String}
    (l : List α) {x : Unit} (h : (l.forM fun a => report logger level (message a)) s = .ok x t) :
    ∃ records, t = s.noted [] records := by
  induction l generalizing s with
  | nil =>
    obtain ⟨-, rfl⟩ := pure_ok h
    exact ⟨[], by simp⟩
  | cons a l ih =>
    obtain ⟨_, _, reported, h⟩ := bind_ok h
    obtain ⟨record, rfl⟩ := report_ok reported
    obtain ⟨records, rfl⟩ := ih h
    exact ⟨record :: records, by simp⟩

theorem writeQuery_ok {kind : Kind} {filters : Filters} {query : Query}
    (h : writeQuery kind filters s = .ok query t) :
    ∃ v u records, engineVersion s = .ok v u ∧ t = u.noted [] records ∧
      (Query.draft v u.quoting kind filters).query = .ok query := by
  unfold writeQuery at h
  obtain ⟨v, u, version, h⟩ := bind_ok h
  obtain ⟨now, _, current, h⟩ := bind_ok h
  obtain ⟨rfl, rfl⟩ := get_ok current
  obtain ⟨_, _, ignored, h⟩ := bind_ok h
  obtain ⟨records, rfl⟩ := forM_report_ok _ ignored
  obtain ⟨drafted, _, converted, h⟩ := bind_ok h
  obtain ⟨draft, rfl⟩ := ofExcept_ok converted
  obtain ⟨_, _, reported, h⟩ := bind_ok h
  obtain ⟨record, rfl⟩ := report_ok reported
  obtain ⟨rfl, rfl⟩ := pure_ok h
  exact ⟨v, u, records ++ [record], version, by simp, draft⟩

theorem draft_version {v : Version} {q : Sql.Quoting} {kind : Kind} {filters : Filters}
    {query : Query} (h : (Query.draft v q kind filters).query = .ok query) : query.version = v := by
  unfold Query.draft at h
  cases selected : Catalog.Strategy.schemaColumn.select v with
  | error e =>
    rw [selected] at h
    cases h
  | ok column =>
    rw [selected] at h
    obtain ⟨⟨form, fragment⟩, -, h⟩ := bind_eq_ok h
    obtain ⟨sql, -, h⟩ := bind_eq_ok h
    cases h
    rfl

theorem fetch_final (s : State) (query : Query) :
    ∃ records, (fetch query).final s = ((execute query.sql .null).final s).noted [] records := by
  unfold fetch
  cases executed : execute query.sql .null s with
  | error f t =>
    rw [final_bind_error executed, final_error executed]
    exact ⟨[], by simp⟩
  | ok x t =>
    rw [final_bind_ok executed, final_ok executed]
    have reported : ∀ {logger message : String} {level : Journal.Level},
        Keeps (fun u => ∃ records, u = t.noted [] records) (report logger level message) := by
      intro logger message level
      apply Keeps.of_results
      · rintro u y w ⟨records, rfl⟩ result
        obtain ⟨record, rfl⟩ := report_ok result
        exact ⟨records ++ [record], by simp⟩
      · intro u f w _ result
        exact (report_error result).elim
    refine Keeps.bind (I := fun u => ∃ records, u = t.noted [] records) .get (fun now => ?_) t
      ⟨[], by simp⟩
    exact (Keeps.ofExcept _).bind fun rows => reported.bind fun _ => .pure _

theorem Acquainted.fetch (h : Acquainted peer s) (query : Query) :
    Acquainted (s.peers ((fetch query).final s) peer) ((fetch query).final s) := by
  have begun : Acquainting s peer s := h.begins s.events s.records
  exact (Acquainting.invariant.fetch query s begun).acquainted

theorem Acquainted.writeQuery (h : Acquainted peer s) {kind : Kind} {filters : Filters}
    {query : Query} (written : writeQuery kind filters s.cleared = .ok query t) :
    Acquainted (s.peers t peer) t ∧ Suits query t.quoting (s.peers t peer t.generation) := by
  have begun : Acquainting s peer s.cleared := h.begins [] []
  have after := (Acquainting.invariant.writeQuery trivial kind filters).ok begun written
  refine ⟨after.acquainted, ?_⟩
  obtain ⟨v, u, records, version, rfl, draft⟩ := writeQuery_ok written
  obtain ⟨positive, reported⟩ := begun.engineVersion_ok version
  rw [Suits, draft_version draft]
  exact ⟨reported, after.acquainted.quoting positive⟩

theorem Acquainted.moved (h : Acquainted peer s) {g : Server → Server}
    {request : Connection.Request} {reply : Reply}
    (connected : (s.perform (Step.alter g).action).2.perform (Step.connect request).action =
      (.ok reply, t)) : Acquainted (s.peers t peer) t := by
  obtain ⟨config, _, converted, opening⟩ := bind_ok (State.perform_ok connected)
  obtain ⟨-, rfl⟩ := ofExcept_ok converted
  obtain ⟨link, u, opened, opening⟩ := bind_ok opening
  obtain ⟨-, rfl⟩ := pure_ok opening
  obtain ⟨-, -, conninfo, options, records, rfl⟩ := connect_ok opened
  have ahead : s.memo.generation ≤ s.generation := h.ahead
  have last : s.peers (((s.perform (Step.alter g).action).2.cleared.opened config).noted
      [.connecting conninfo options] records) peer (s.generation + 1) = g s.server :=
    if_neg (by omega)
  refine ⟨h.driver, ?_, Nat.le_succ_of_le ahead, ?_, ?_, ?_⟩
  · rintro link eq
    cases eq
    exact ⟨rfl, Nat.succ_pos _⟩
  · intro _
    show (g s.server).quoting = (s.peers _ peer (s.generation + 1)).quoting
    rw [last]
  · intro _
    show (g s.server).Alike (s.peers _ peer (s.generation + 1))
    rw [last]
    exact ⟨rfl, rfl⟩
  · intro (current : s.memo.generation = s.generation + 1)
    omega

theorem Reached.acquainted {server : Server} {driver : Driver} {threshold : Datum} {start : State}
    (started : State.overDriver server driver threshold = .ok start)
    (reached : Reached start s peer) : Acquainted peer s := by
  induction reached with
  | start => exact .start started
  | step _ step driven steady ih => exact ih.step driven steady
  | moved _ g request connected ih => exact ih.moved connected
  | lookup before written weather ih =>
    exact ((ih.writeQuery written).1.weather weather).fetch _

theorem Weather.generation_eq (weather : Weather s t) : t.generation = s.generation := by
  induction weather with
  | calm => rfl
  | drop _ ih => exact ih
  | alter _ _ _ ih => exact ih

/-- The statement of a lookup is sent on the connection that is then the session's last one, as it
was written for the peer of the connection that was the last one before: the same connection, unless
it has dropped in the meantime.  So it suits the peer that it is sent to unless the connection has
dropped and the peer of the new one is not like the peer of the old one. -/
theorem Sending.suits_iff {server : Server} {driver : Driver} {threshold : Datum} {start : State}
    (started : State.overDriver server driver threshold = .ok start) (l : Sending start) {n : Nat}
    {sql : String} {parameters : Option (List Datum)}
    (sent : Event.statement n sql parameters ∈ l.events) :
    sql = l.query.sql ∧ n = l.after.generation ∧ (n = l.written.generation ↔ ¬l.sending.Dropped) ∧
      (Query.draft l.query.version l.written.quoting l.kind l.filters).query = .ok l.query ∧
      Suits l.query l.written.quoting l.writtenFor ∧
      (Suits l.query l.written.quoting (l.peerOf n) ↔
        (l.sending.Dropped → (l.peerOf n).Alike l.writtenFor)) := by
  have before := l.reached.acquainted started
  obtain ⟨acquainted, suits⟩ := before.writeQuery l.writes
  have sending := acquainted.weather l.weather
  have kept : l.sending.generation = l.written.generation := l.weather.generation_eq
  obtain ⟨driver, access⟩ := sending.driver
  obtain ⟨records, fetched⟩ := fetch_final l.sending l.query
  have executed : Executed l.sending l.query.sql .null
      ((execute l.query.sql .null).final l.sending) := execute_final access
  rw [Sending.events, Sending.after, fetched, State.events_noted, List.append_nil] at sent
  obtain ⟨text, link, u, ready, number, generation, -⟩ := executed.statement sent
  have last : l.after.generation = u.generation := by
    rw [Sending.after, fetched, State.generation_noted, generation]
  have drafted : (Query.draft l.query.version l.written.quoting l.kind l.filters).query =
      .ok l.query := by
    obtain ⟨v, _, _, -, eq, draft⟩ := writeQuery_ok l.writes
    rw [draft_version draft, eq]
    exact draft
  cases ready with
  | held holds live =>
    have current : n = l.sending.generation := number.trans (sending.link link holds).1
    have lasts : ¬l.sending.Dropped := by
      rintro ⟨old, eq, dropped⟩
      rw [holds] at eq
      cases eq
      rw [live] at dropped
      cases dropped
    have peer : l.peerOf n = l.writtenFor := by
      rw [Sending.peerOf, State.peers, if_pos (Nat.le_of_eq current), current, kept]
      rfl
    refine ⟨text, current.trans last.symm, ?_, drafted, suits, ?_⟩
    · exact ⟨fun _ => lasts, fun _ => current.trans kept⟩
    · rw [peer]
      exact ⟨fun _ gone => absurd gone lasts, fun _ => suits⟩
  | replaced holds dropped _ _ _ _ =>
    have current : n = l.sending.generation + 1 := number
    have gone : l.sending.Dropped := ⟨_, holds, dropped⟩
    refine ⟨text, current.trans last.symm, ?_, drafted, suits, ?_⟩
    · refine ⟨fun same => ?_, fun lasts => absurd gone lasts⟩
      omega
    · refine ⟨fun fits _ => ?_, fun alike => ?_⟩
      · exact ⟨fits.1.trans suits.1.symm, fits.2.symm.trans suits.2⟩
      · obtain ⟨version, quoting⟩ := alike gone
        exact ⟨version.trans suits.1, suits.2.trans quoting.symm⟩

/-! ### A connection that is replaced under a lookup -/

theorem reached_replacing : ∃ peer, Reached .fresh (State.fresh.after replacing) peer := by
  have begun : Reached .fresh .fresh fun _ => State.fresh.server := .start
  have connected := begun.step (.connect ⟨.url "crate://u@h", {}, none⟩) rfl (by
    intro g eq
    cases eq)
  have probed := connected.step .engineVersion rfl (by
    intro g eq
    cases eq)
  have dropped := probed.step .drop rfl (by
    intro g eq
    cases eq)
  have altered := dropped.step (.alter replacement) rfl fun _ _ live =>
    (State.not_live_dropped _ live).elim
  exact ⟨_, altered⟩

/-- What is seen when a lookup is made after the replacement of the server: a statement on a new
connection, by the rule for literals of the old one. -/
def seesReplacement (query : Query) (u : State) : Bool :=
  let w := (fetch query).final u
  (w.events.drop u.events.length).any fun
    | .statement n _ none =>
      (u.link.any (·.dropped)) && u.generation < n && w.server.quoting != u.quoting
    | _ => false

theorem exists_replaced :
    ∃ (l : Sending State.fresh) (n : Nat) (sql : String), .statement n sql none ∈ l.events ∧
      l.sending.Dropped ∧ (l.peerOf n).quoting ≠ l.written.quoting := by
  obtain ⟨peer, reached⟩ := reached_replacing
  have seen : (match writeQuery .tables { schema := .text "o'b\\" }
      (State.fresh.after replacing).cleared with
      | .ok query u => seesReplacement query u
      | .error _ _ => false) = true := by
    decide +kernel
  cases writes : writeQuery .tables { schema := .text "o'b\\" }
      (State.fresh.after replacing).cleared with
  | error f u =>
    rw [writes] at seen
    cases seen
  | ok query u =>
    rw [writes] at seen
    obtain ⟨e, mem, holds⟩ := List.any_eq_true.mp seen
    let l : Sending State.fresh :=
      ⟨_, _, _, _, reached, _, _, writes, _, .calm⟩
    split at holds
    · next n sql =>
      simp only [Bool.and_eq_true, decide_eq_true_eq, bne_iff_ne, Option.any_eq_true] at holds
      obtain ⟨⟨⟨link, held, dropped⟩, later⟩, differs⟩ := holds
      refine ⟨l, n, sql, mem, ⟨link, held, dropped⟩, ?_⟩
      have new : l.peerOf n = l.after.server := if_neg (Nat.not_le_of_lt later)
      rw [new]
      exact differs
    · cases holds

theorem Sending.suits_iff_replaced :
    ∃ (l : Sending State.fresh) (n : Nat) (sql : String), .statement n sql none ∈ l.events ∧
      sql = l.query.sql ∧ n ≠ l.written.generation ∧
      (Suits l.query l.written.quoting (l.peerOf n) ↔ (l.peerOf n).Alike l.writtenFor) := by
  obtain ⟨l, n, sql, sent, dropped, -⟩ := exists_replaced
  obtain ⟨text, -, same, -, -, suits⟩ := l.suits_iff fresh_started sent
  refine ⟨l, n, sql, sent, text, fun eq => same.mp eq dropped, ?_⟩
  rw [suits]
  exact ⟨fun fits => fits dropped, fun alike _ => alike⟩

/-- Not every statement suits the peer that it is sent to. -/
theorem Sending.not_always_suits :
    ¬∀ (l : Sending State.fresh) (n : Nat) (sql : String), .statement n sql none ∈ l.events →
      Suits l.query l.written.quoting (l.peerOf n) := by
  intro always
  obtain ⟨l, n, sql, sent, -, differs⟩ := exists_replaced
  exact differs (always l n sql sent).2.symm

end SystemCatalog.Session
