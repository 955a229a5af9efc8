import SystemCatalog.Proofs.Session.Wire

/-!
# What remembering does

A remembered call first drops what belongs to an earlier connection; then it answers from memory or
computes and remembers.  An invariant of sessions that the wire, the memory and the remembered calls
keep is kept by every step.
-/

namespace SystemCatalog.Session

open Connection (Config)
open Journal (Record Level)
open Session.Action

variable {α : Type} {s t : State} {f : Fault}

/-- The session without what it remembers of an earlier connection. -/
def State.checked (s : State) : State :=
  if s.generation = s.memo.generation then s else { s with memo := { generation := s.generation } }

section Checked

variable (s)

theorem checked_cases :
    s.generation = s.memo.generation ∧ s.checked = s ∨
      s.generation ≠ s.memo.generation ∧
        s.checked = { s with memo := { generation := s.generation } } := by
  unfold State.checked
  by_cases same : s.generation = s.memo.generation
  · exact Or.inl ⟨same, if_pos same⟩
  · exact Or.inr ⟨same, if_neg same⟩

@[simp] theorem server_checked : s.checked.server = s.server := by
  unfold State.checked
  split <;> rfl

@[simp] theorem access_checked : s.checked.access = s.access := by
  unfold State.checked
  split <;> rfl

@[simp] theorem generation_checked : s.checked.generation = s.generation := by
  unfold State.checked
  split <;> rfl

@[simp] theorem quoting_checked : s.checked.quoting = s.quoting := by
  unfold State.checked
  split <;> rfl

@[simp] theorem link_checked : s.checked.link = s.link := by
  unfold State.checked
  split <;> rfl

@[simp] theorem events_checked : s.checked.events = s.events := by
  unfold State.checked
  split <;> rfl

@[simp] theorem memo_generation_checked : s.checked.memo.generation = s.generation := by
  rcases checked_cases s with ⟨same, eq⟩ | ⟨-, eq⟩
  · rw [eq, same]
  · rw [eq]

end Checked

theorem checkGeneration_ok {x : Unit} (h : checkGeneration s = .ok x t) :
    ∃ records, t = s.checked.noted [] records := by
  unfold checkGeneration at h
  obtain ⟨now, _, current, h⟩ := bind_ok h
  obtain ⟨rfl, rfl⟩ := get_ok current
  rcases checked_cases s with ⟨same, eq⟩ | ⟨other, eq⟩
  · rw [if_neg (by simpa using same)] at h
    obtain ⟨-, rfl⟩ := pure_ok h
    exact ⟨[], by rw [eq, State.noted_nil]⟩
  · rw [if_pos other] at h
    obtain ⟨_, _, reported, h⟩ := bind_ok h
    obtain ⟨record, rfl⟩ := report_ok reported
    cases h
    exact ⟨[record], by rw [eq]; rfl⟩

theorem checkGeneration_error (h : checkGeneration s = .error f t) : False := by
  unfold checkGeneration at h
  rcases bind_error h with failed | ⟨now, _, current, h⟩
  · cases failed
  obtain ⟨rfl, rfl⟩ := get_ok current
  split at h
  · rcases bind_error h with failed | ⟨_, _, -, h⟩
    · exact report_error failed
    · cases h
  · cases h

variable {find : Memo → Option α} {keep : Memo → α → Memo} {compute : Action α}

theorem remembered_ok {x : α} (h : remembered find keep compute s = .ok x t) :
    (∃ records, find s.checked.memo = some x ∧ t = s.checked.noted [] records) ∨
      ∃ records u, find s.checked.memo = none ∧
        compute (s.checked.noted [] records) = .ok x u ∧
        t = { u with memo := keep u.memo x } := by
  unfold remembered at h
  obtain ⟨_, _, checked, h⟩ := bind_ok h
  obtain ⟨records, rfl⟩ := checkGeneration_ok checked
  obtain ⟨now, _, current, h⟩ := bind_ok h
  obtain ⟨rfl, rfl⟩ := get_ok current
  rw [State.memo_noted] at h
  cases found : find s.checked.memo with
  | some value =>
    rw [found] at h
    obtain ⟨rfl, rfl⟩ := pure_ok h
    exact Or.inl ⟨records, rfl, rfl⟩
  | none =>
    rw [found] at h
    obtain ⟨value, u, computed, h⟩ := bind_ok h
    obtain ⟨_, _, kept, h⟩ := bind_ok h
    cases kept
    obtain ⟨rfl, rfl⟩ := pure_ok h
    exact Or.inr ⟨records, u, rfl, computed, rfl⟩

theorem remembered_error (h : remembered find keep compute s = .error f t) :
    ∃ records, find s.checked.memo = none ∧ compute (s.checked.noted [] records) = .error f t := by
  unfold remembered at h
  rcases bind_error h with failed | ⟨_, _, checked, h⟩
  · exact (checkGeneration_error failed).elim
  obtain ⟨records, rfl⟩ := checkGeneration_ok checked
  rcases bind_error h with failed | ⟨now, _, current, h⟩
  · cases failed
  obtain ⟨rfl, rfl⟩ := get_ok current
  rw [State.memo_noted] at h
  cases found : find s.checked.memo with
  | some value =>
    rw [found] at h
    cases h
  | none =>
    rw [found] at h
    rcases bind_error h with failed | ⟨value, u, computed, h⟩
    · exact ⟨records, rfl, failed⟩
    rcases bind_error h with failed | ⟨_, _, kept, h⟩
    · cases failed
    · cases h

/-! ### What the calls compute -/

variable {driver : Driver}

theorem asked_ok {β : Type} (row : Server → β) {sql logger name : String} {x : β}
    (access : s.access = .driver driver)
    (h : timed logger name sql .null (do
      execute sql .null
      return row (← get).server) s = .ok x t) :
    s.server.failure = none ∧ x = row s.server ∧ ∃ link u records, Ready s link u ∧
      t = u.noted [.cursor, .statement link.number sql none] records := by
  obtain ⟨_, record, asked, rfl⟩ := timed_ok h
  obtain ⟨_, _, executed, asked⟩ := bind_ok asked
  obtain ⟨works, link, u, records, ready, rfl⟩ := execute_ok access executed
  obtain ⟨now, _, current, asked⟩ := bind_ok asked
  obtain ⟨rfl, rfl⟩ := get_ok current
  obtain ⟨rfl, rfl⟩ := pure_ok asked
  refine ⟨works, ?_, link, u, records ++ [record], ready, by simp [sentParameters_null]⟩
  rw [State.server_noted, ready.server_eq]

theorem asked_error {β : Type} (row : Server → β) {sql logger name : String}
    (access : s.access = .driver driver)
    (h : timed logger name sql .null (do
      execute sql .null
      return row (← get).server) s = .error f t) :
    (∃ events records, Vain s events ∧ t = s.noted events records) ∨
      s.server.failure ≠ none ∧ ∃ link u records, Ready s link u ∧
        t = u.noted [.cursor, .statement link.number sql none] records := by
  obtain ⟨_, record, asked, rfl⟩ := timed_error h
  rcases bind_error asked with failed | ⟨_, _, -, asked⟩
  · rcases execute_failed access failed with ⟨events, records, vain, rfl⟩ |
      ⟨fails, link, u, records, ready, rfl⟩
    · exact Or.inl ⟨events, records ++ [record], vain, by simp⟩
    · exact Or.inr ⟨fails, link, u, records ++ [record], ready, by simp⟩
  · cases asked

theorem toOption_probedVersion_filled {row : Catalog.RawRow} (filled : isBare row = false) :
    (probedVersion row).toOption = (Version.ofText (firstValue row).plain).toOption := by
  unfold probedVersion
  simp only [filled, Bool.false_eq_true, if_false]
  cases firstValue row with
  -- A null is written as a word, which is no version.
  | null => rfl
  | _ =>
    simp only [Datum.isNull, Bool.false_eq_true, if_false]
    split
    · next read => rw [read]
    · next unread => rw [unread]; rfl

/-- The version that a probe finds is the one that the server reports. -/
theorem toOption_probedVersion (server : Server) :
    (probedVersion server.probe).toOption = server.version? := by
  unfold Server.version? Server.probed
  cases server.probe with
  | absent => rfl
  | cells values =>
    cases values with
    | nil => rfl
    | cons d rest => exact toOption_probedVersion_filled rfl
  | mapping entries =>
    cases entries with
    | nil => rfl
    | cons entry rest => exact toOption_probedVersion_filled rfl

theorem probe_ok {v : Version} (access : s.access = .driver driver) (h : probe s = .ok v t) :
    s.server.failure = none ∧ s.server.version? = some v ∧ ∃ link u records,
      Ready s link u ∧
        t = u.noted [.cursor, .statement link.number versionProbe none] records := by
  unfold probe at h
  obtain ⟨row, _, asked, h⟩ := bind_ok h
  obtain ⟨works, rfl, link, u, records, ready, rfl⟩ := asked_ok Server.probe access asked
  obtain ⟨version, _, converted, h⟩ := bind_ok h
  obtain ⟨read, rfl⟩ := ofExcept_ok converted
  obtain ⟨_, _, reported, h⟩ := bind_ok h
  obtain ⟨last, rfl⟩ := report_ok reported
  obtain ⟨rfl, rfl⟩ := pure_ok h
  refine ⟨works, ?_, link, u, records ++ [last], ready, by simp⟩
  rw [← toOption_probedVersion, read]
  rfl

theorem probe_error (access : s.access = .driver driver) (h : probe s = .error f t) :
    (∃ events records, Vain s events ∧ t = s.noted events records) ∨
      (s.server.failure ≠ none ∨ s.server.version? = none) ∧ ∃ link u records, Ready s link u ∧
          t = u.noted [.cursor, .statement link.number versionProbe none] records := by
  unfold probe at h
  rcases bind_error h with failed | ⟨row, _, asked, h⟩
  · rcases asked_error Server.probe access failed with unready | ⟨fails, sent⟩
    · exact Or.inl unready
    · exact Or.inr ⟨Or.inl fails, sent⟩
  obtain ⟨-, rfl, link, u, records, ready, rfl⟩ := asked_ok Server.probe access asked
  rcases bind_error h with failed | ⟨version, _, -, h⟩
  · obtain ⟨unread, rfl⟩ := ofExcept_error failed
    refine Or.inr ⟨Or.inr ?_, link, u, records, ready, rfl⟩
    rw [← toOption_probedVersion, unread]
    rfl
  rcases bind_error h with failed | ⟨_, _, -, h⟩
  · exact (report_error failed).elim
  · cases h

theorem readConstant_ok {c : Constant} {n : Int} (access : s.access = .driver driver)
    (h : readConstant c s = .ok n t) :
    s.server.failure = none ∧ constantOfRow c (s.server.constantRow c) = .ok n ∧
      ∃ link u records, Ready s link u ∧
        t = u.noted [.cursor, .statement link.number c.query none] records := by
  unfold readConstant at h
  obtain ⟨row, _, asked, h⟩ := bind_ok h
  obtain ⟨works, rfl, sent⟩ := asked_ok (·.constantRow c) access asked
  obtain ⟨read, rfl⟩ := ofExcept_ok h
  exact ⟨works, read, sent⟩

theorem readConstant_error {c : Constant} (access : s.access = .driver driver)
    (h : readConstant c s = .error f t) :
    (∃ events records, Vain s events ∧ t = s.noted events records) ∨
      (s.server.failure ≠ none ∨ constantOfRow c (s.server.constantRow c) = .error f) ∧
        ∃ link u records, Ready s link u ∧
          t = u.noted [.cursor, .statement link.number c.query none] records := by
  unfold readConstant at h
  rcases bind_error h with failed | ⟨row, _, asked, h⟩
  · rcases asked_error (·.constantRow c) access failed with unready | ⟨fails, sent⟩
    · exact Or.inl unready
    · exact Or.inr ⟨Or.inl fails, sent⟩
  obtain ⟨-, rfl, sent⟩ := asked_ok (·.constantRow c) access asked
  obtain ⟨unread, rfl⟩ := ofExcept_error h
  exact Or.inr ⟨Or.inr unread, sent⟩

/-! ### Invariants of the wire -/

/-- An invariant of sessions over a driver that holds whatever the wire does. -/
structure Stable (I : State → Prop) : Prop where
  driver : ∀ {s}, I s → ∃ driver, s.access = .driver driver
  noted : ∀ {s} (events : List Event) (records : List Record), I s → I (s.noted events records)
  opened : ∀ {s} (config : Config), I s → I (s.opened config)
  closed : ∀ {s}, I s → I { s with link := none }

namespace Stable

variable {I : State → Prop}

theorem ready (stable : Stable I) {link : Link} (ready : Ready s link t) (holds : I s) : I t := by
  cases ready with
  | held => exact holds
  | replaced => exact stable.noted _ _ (stable.opened _ holds)

theorem report (stable : Stable I) {logger message : String} {level : Level} :
    Keeps I (Action.report logger level message) := by
  apply Keeps.of_results
  · intro s x t holds result
    obtain ⟨record, rfl⟩ := report_ok result
    exact stable.noted _ _ holds
  · intro s f t _ result
    exact (report_error result).elim

theorem timed (stable : Stable I) {logger name sql : String} {parameters : Datum} {a : Action α}
    (inner : Keeps I a) : Keeps I (Action.timed logger name sql parameters a) :=
  inner.timed fun _ records => stable.noted [] records

theorem connect (stable : Stable I) (config : Config) : Keeps I (Session.connect config) := by
  apply Keeps.of_results
  · intro s link t holds result
    obtain ⟨-, -, _, _, _, rfl⟩ := connect_ok result
    exact stable.noted _ _ (stable.opened _ holds)
  · intro s f t holds result
    rcases connect_error result with ⟨_, rfl⟩ | ⟨-, _, _, _, rfl⟩
    · exact stable.noted _ _ holds
    · exact stable.noted _ _ holds

theorem close (stable : Stable I) : Keeps I Session.close := by
  intro s holds
  rcases close_final s with ⟨-, eq⟩ | ⟨-, eq⟩
  · rwa [eq]
  · rw [eq]
    exact stable.closed (stable.noted _ _ holds)

theorem execute (stable : Stable I) (sql : String) (parameters : Datum) :
    Keeps I (Session.execute sql parameters) := by
  apply Keeps.of_results
  · intro s x t holds result
    obtain ⟨driver, access⟩ := stable.driver holds
    obtain ⟨-, link, u, records, ready, rfl⟩ := execute_ok access result
    exact stable.noted _ _ (stable.ready ready holds)
  · intro s f t holds result
    obtain ⟨driver, access⟩ := stable.driver holds
    cases execute_error access result with
    | unready vain records => exact stable.noted _ _ holds
    | unsent ready => exact stable.ready ready holds
    | sent ready records => exact stable.noted _ _ (stable.ready ready holds)

theorem handshake (stable : Stable I) : Keeps I Session.handshake := by
  apply Keeps.of_results
  · intro s v t holds result
    obtain ⟨driver, access⟩ := stable.driver holds
    obtain ⟨-, link, u, ready, rfl⟩ := handshake_ok access result
    exact stable.noted _ _ (stable.ready ready holds)
  · intro s f t holds result
    obtain ⟨driver, access⟩ := stable.driver holds
    rcases handshake_error access result with ⟨_, _, -, rfl⟩ | ⟨link, u, events, ready, -, rfl⟩
    · exact stable.noted _ _ holds
    · exact stable.noted _ _ (stable.ready ready holds)

theorem probe (stable : Stable I) : Keeps I Session.probe := by
  unfold Session.probe
  refine (stable.timed ?_).bind fun row => ?_
  · exact (stable.execute _ _).bind fun _ => Keeps.get.bind fun now => .pure _
  · exact (Keeps.ofExcept _).bind fun version => stable.report.bind fun _ => .pure _

theorem readConstant (stable : Stable I) (c : Constant) : Keeps I (Session.readConstant c) := by
  unfold Session.readConstant
  refine (stable.timed ?_).bind fun row => .ofExcept _
  exact (stable.execute _ _).bind fun _ => Keeps.get.bind fun now => .pure _

end Stable

/-- A remembered call keeps an invariant that allows for the value that it computes. -/
theorem remembered_keeps {I : State → Prop} (stable : Stable I)
    (checked : ∀ {s}, I s → I s.checked) (inner : Keeps I compute)
    (kept : ∀ {s x u}, I s → compute s = .ok x u → I { u with memo := keep u.memo x }) :
    Keeps I (remembered find keep compute) := by
  apply Keeps.of_results
  · intro s x t holds result
    rcases remembered_ok result with ⟨records, -, rfl⟩ | ⟨records, u, -, computed, rfl⟩
    · exact stable.noted _ _ (checked holds)
    · exact kept (stable.noted _ _ (checked holds)) computed
  · intro s f t holds result
    obtain ⟨records, -, computed⟩ := remembered_error result
    exact inner.error (stable.noted _ _ (checked holds)) computed

/-! ### Invariants of sessions -/

/-- An invariant that also holds whatever happens to the memory, as long as only the calls `asked`
are made. -/
structure Invariant (I : State → Prop) (asked : Call → Prop) : Prop extends Stable I where
  forgotten : ∀ {s}, I s → I { s with memo := { generation := s.memo.generation } }
  restarted : ∀ {s}, I s → I { s with memo := { generation := s.generation } }
  dropped : ∀ {s}, I s → I { s with link := s.link.map fun link => { link with dropped := true } }
  engineVersion : asked .engineVersion → Keeps I engineVersion
  serverVersion : asked .serverVersion → Keeps I serverVersion
  limit : ∀ c, asked (.limit c) → Keeps I (constant c)

namespace Invariant

variable {I : State → Prop} {asked : Call → Prop}

theorem writeQuery (inv : Invariant I asked) (may : asked .engineVersion) (kind : Catalog.Kind)
    (filters : Catalog.Filters) : Keeps I (Session.writeQuery kind filters) := by
  unfold Session.writeQuery
  refine (inv.engineVersion may).bind fun version => Keeps.get.bind fun now => ?_
  refine (Keeps.forM (fun kind => inv.toStable.report) _).bind fun _ => ?_
  exact (Keeps.ofExcept _).bind fun query => inv.toStable.report.bind fun _ => .pure _

theorem fetch (inv : Invariant I asked) (query : Catalog.Query) :
    Keeps I (Session.fetch query) := by
  unfold Session.fetch
  refine (inv.toStable.execute _ _).bind fun _ => Keeps.get.bind fun now => ?_
  exact (Keeps.ofExcept _).bind fun rows => inv.toStable.report.bind fun _ => .pure _

theorem lookup (inv : Invariant I asked) (may : asked .engineVersion) (kind : Catalog.Kind)
    (filters : Catalog.Filters) : Keeps I (Session.lookup kind filters) := by
  unfold Session.lookup
  exact (inv.writeQuery may kind filters).bind fun query => inv.toStable.timed (inv.fetch query)

theorem decodeGrants (inv : Invariant I asked) (array : Option String) (owner : String)
    (may : array.isNone → asked .serverVersion) : Keeps I (Session.decodeGrants array owner) := by
  have privileges : Keeps I (Session.defaultPrivileges array) := by
    unfold Session.defaultPrivileges
    cases array with
    | some text => exact .pure _
    | none => exact (inv.serverVersion (may rfl)).bind fun version => .ofExcept _
  unfold Session.decodeGrants
  refine privileges.bind fun defaults => ?_
  exact (Keeps.forM (fun token => inv.toStable.report) _).bind fun _ => .pure _

theorem step (inv : Invariant I asked) {step : Step} (change : ∀ g, step ≠ .alter g)
    (driven : step.isRenewal = false) (may : ∀ call, step.asks call → asked call) :
    Keeps I step.action := by
  cases step with
  | alter g => exact absurd rfl (change g)
  | renew => cases driven
  | drop => exact fun s holds => inv.dropped holds
  | connect request =>
    exact (Keeps.ofExcept _).bind fun config => (inv.toStable.connect config).bind fun _ => .pure _
  | close => exact inv.toStable.close.bind fun _ => .pure _
  | execute sql parameters =>
    exact (inv.toStable.execute sql parameters).bind fun _ => Keeps.get.bind fun _ => .pure _
  | lookup kind arguments =>
    refine (Keeps.ofExcept _).bind fun filters => ?_
    exact (inv.lookup (may _ (by simp [Step.asks])) kind filters).bind fun _ => .pure _
  | catalogs => exact .pure _
  | tableTypes => exact .pure _
  | typeInfo => exact .pure _
  | engineVersion =>
    exact (inv.engineVersion (may _ (by simp [Step.asks]))).bind fun _ => .pure _
  | serverVersion =>
    exact (inv.serverVersion (may _ (by simp [Step.asks]))).bind fun _ => .pure _
  | handshake => exact inv.toStable.handshake.bind fun _ => .pure _
  | maxNameLength =>
    refine Keeps.bind ?_ fun _ => .pure _
    exact (inv.limit .nameWidth (may _ (by simp [Step.asks]))).bind fun _ => .pure _
  | maxIndexKeys =>
    exact (inv.limit .indexKeys (may _ (by simp [Step.asks]))).bind fun _ => .pure _
  | isAtLeast given =>
    refine (inv.serverVersion (may _ (by simp [Step.asks]))).bind fun version => ?_
    exact (Keeps.ofExcept _).bind fun _ => .pure _
  | decodeGrants array owner =>
    refine (inv.decodeGrants array owner fun none => may _ ?_).bind fun _ => .pure _
    simpa [Step.asks] using none
  | tablePrivileges schema table array owner =>
    refine ((inv.decodeGrants array owner fun none => may _ ?_).bind fun _ => .pure _).bind
      fun _ => .pure _
    simpa [Step.asks] using none
  | forget => exact fun s holds => inv.forgotten holds
  | restart remember =>
    cases remember with
    | true => exact .pure _
    | false => exact fun s holds => inv.restarted holds

end Invariant

end SystemCatalog.Session
