import SystemCatalog.Proofs.Session.Memo

/-!
# Remembered values are readings of the current connection

Every reply to a remembered call was read on the connection that is open when the call returns, and
a call that fails leaves nothing to remember.  The invariant behind it: what is remembered for the
current connection has been read on it.
-/

namespace SystemCatalog.Session

open Connection (Config)
open Journal (Record)
open Session.Action

variable {α : Type} {s t : State} {f : Fault} {call : Call} {reply : Reply}

theorem State.Read.noted {n : Nat} (read : s.Read call n reply) (events : List Event)
    (records : List Record) : (s.noted events records).Read call n reply := by
  obtain ⟨e, mem, eq⟩ := read
  exact ⟨e, List.mem_append_left _ mem, eq⟩

/-- What each remembered call finds, keeps and computes. -/
structure Remembers (call : Call) (shown : α → Reply) (find : Memo → Option α)
    (keep : Memo → α → Memo) (compute : Action α) : Prop where
  stores : ∀ memo, call.stored memo = (find memo).map shown
  keeps : ∀ memo x, call.stored (keep memo x) = some (shown x)
  others : ∀ other, other ≠ call → ∀ memo x, other.stored (keep memo x) = other.stored memo
  generation : ∀ memo x, (keep memo x).generation = memo.generation
  stable : ∀ {I}, Stable I → Keeps I compute
  reads : ∀ {s x t driver}, s.access = .driver driver → compute s = .ok x t →
    ∃ link u events records, Ready s link u ∧ t = u.noted events records ∧
      ∃ e ∈ events, call.reading? s.server link.number e = some (shown x)

theorem engineVersion_remembers :
    Remembers .engineVersion .version Memo.engine
      (fun memo version => { memo with engine := some version }) probe where
  stores _ := rfl
  keeps _ _ := rfl
  others other different memo x := by
    cases other with
    | engineVersion => exact absurd rfl different
    | serverVersion => rfl
    | limit c => cases c <;> rfl
  generation _ _ := rfl
  stable stable := stable.probe
  reads access h := by
    obtain ⟨works, read, link, u, records, ready, rfl⟩ := probe_ok access h
    exact ⟨link, u, _, records, ready, rfl, _, List.mem_cons_of_mem _ List.mem_cons_self,
      by simp [Call.reading?, works, read]⟩

theorem serverVersion_remembers :
    Remembers .serverVersion .version Memo.server
      (fun memo version => { memo with server := some version }) handshake where
  stores _ := rfl
  keeps _ _ := rfl
  others other different memo x := by
    cases other with
    | engineVersion => rfl
    | serverVersion => exact absurd rfl different
    | limit c => cases c <;> rfl
  generation _ _ := rfl
  stable stable := stable.handshake
  reads access h := by
    obtain ⟨read, link, u, ready, rfl⟩ := handshake_ok access h
    exact ⟨link, u, _, [], ready, rfl, _, List.mem_cons_self,
      by simp [Call.reading?, read, Except.toOption]⟩

theorem limit_remembers (c : Constant) :
    Remembers (.limit c) (Call.limitReply c) (·.constant c) (·.keepConstant c)
      (readConstant c) where
  stores _ := rfl
  keeps _ _ := by cases c <;> rfl
  others other different memo x := by
    cases other with
    | engineVersion => cases c <;> rfl
    | serverVersion => cases c <;> rfl
    | limit d =>
      cases c <;> cases d
      · exact absurd rfl different
      · rfl
      · rfl
      · exact absurd rfl different
  generation _ _ := by cases c <;> rfl
  stable stable := stable.readConstant c
  reads access h := by
    obtain ⟨works, read, link, u, records, ready, rfl⟩ := readConstant_ok access h
    exact ⟨link, u, _, records, ready, rfl, _, List.mem_cons_of_mem _ List.mem_cons_self,
      by simp [Call.reading?, works, read, Except.toOption]⟩

theorem limit_action (c : Constant) (s : State) :
    (Call.limit c).step.action s =
      (remembered (·.constant c) (·.keepConstant c) (readConstant c) >>= fun n =>
        pure (Call.limitReply c n)) s := by
  cases c with
  | nameWidth =>
    show (maxNameLength >>= fun n => pure (Reply.number n)) s =
      (constant .nameWidth >>= fun n => pure (Reply.number (n - 1))) s
    unfold maxNameLength
    simp only [bind, EStateM.bind]
    cases constant .nameWidth s <;> rfl
  | indexKeys => rfl

theorem remembers (call : Call) :
    ∃ (α : Type) (shown : α → Reply) (find : Memo → Option α) (keep : Memo → α → Memo)
      (compute : Action α), Remembers call shown find keep compute ∧
        ∀ s, call.step.action s = (remembered find keep compute >>= fun x => pure (shown x)) s := by
  cases call with
  | engineVersion => exact ⟨_, _, _, _, _, engineVersion_remembers, fun _ => rfl⟩
  | serverVersion => exact ⟨_, _, _, _, _, serverVersion_remembers, fun _ => rfl⟩
  | limit c => exact ⟨_, _, _, _, _, limit_remembers c, limit_action c⟩

theorem Call.isRenewal_step (call : Call) : call.step.isRenewal = false := by
  cases call with
  | engineVersion => rfl
  | serverVersion => rfl
  | limit c => cases c <;> rfl

/-! ### The invariant -/

/-- What is remembered for the current connection has been read on it: earlier (`past`), or in the
step that is going on. -/
structure Sound (past : Call → Nat → Reply → Prop) (s : State) : Prop where
  driver : ∃ driver, s.access = .driver driver
  link : ∀ link, s.link = some link → link.number = s.generation
  ahead : s.memo.generation ≤ s.generation
  entries : s.memo.generation = s.generation → ∀ call reply, call.stored s.memo = some reply →
    past call s.generation reply ∨ s.Read call s.generation reply

theorem stored_fresh (call : Call) (n : Nat) : call.stored { generation := n } = none := by
  cases call with
  | engineVersion => rfl
  | serverVersion => rfl
  | limit c => cases c <;> rfl

namespace Sound

variable {past : Call → Nat → Reply → Prop}

theorem stable : Stable (Sound past) where
  driver sound := sound.driver
  noted events records sound :=
    { sound with
      entries := by
        intro current call reply known
        rcases sound.entries current call reply known with before | read
        · exact Or.inl before
        · exact Or.inr (State.Read.noted read events records) }
  opened {s} config sound := by
    have ahead : s.memo.generation ≤ s.generation := sound.ahead
    refine ⟨sound.driver, ?_, ?_, ?_⟩
    · rintro link eq
      cases eq
      rfl
    · show s.memo.generation ≤ s.generation + 1
      omega
    -- What is remembered belongs to an earlier connection now.
    · intro (current : s.memo.generation = s.generation + 1)
      omega
  closed sound := { sound with link := fun _ eq => by cases eq }

theorem number_eq (sound : Sound past s) {link : Link} (ready : Ready s link t) :
    link.number = t.generation := by
  cases ready with
  | held holds live => exact sound.link link holds
  | replaced => rfl

theorem checked (sound : Sound past s) : Sound past s.checked := by
  rcases checked_cases s with ⟨-, eq⟩ | ⟨-, eq⟩
  · rwa [eq]
  · rw [eq]
    refine ⟨sound.driver, sound.link, Nat.le_refl _, ?_⟩
    intro _ call reply known
    rw [stored_fresh] at known
    cases known

variable {shown : α → Reply} {find : Memo → Option α} {keep : Memo → α → Memo}
  {compute : Action α}

theorem computed (rem : Remembers call shown find keep compute) (sound : Sound past s) {x : α}
    (h : compute s = .ok x t) : Sound past t ∧ t.Read call t.generation (shown x) := by
  obtain ⟨driver, access⟩ := sound.driver
  obtain ⟨link, u, events, records, ready, rfl, e, mem, read⟩ := rem.reads access h
  have kept := stable.noted events records (stable.ready ready sound)
  refine ⟨kept, e, List.mem_append_right _ mem, ?_⟩
  rw [State.server_noted, State.generation_noted, ready.server_eq, ← sound.number_eq ready]
  exact read

theorem kept (rem : Remembers call shown find keep compute) (sound : Sound past s) {x : α}
    (h : compute s = .ok x t) : Sound past { t with memo := keep t.memo x } := by
  obtain ⟨after, read⟩ := computed rem sound h
  have generation := rem.generation t.memo x
  refine ⟨after.driver, after.link, ?_, ?_⟩
  · show (keep t.memo x).generation ≤ t.generation
    rw [generation]
    exact after.ahead
  · intro current other reply known
    by_cases same : other = call
    · subst same
      rw [rem.keeps] at known
      cases known
      exact Or.inr read
    · rw [rem.others other same] at known
      exact after.entries (generation.symm.trans current) other reply known

theorem remembered (rem : Remembers call shown find keep compute) :
    Keeps (Sound past) (remembered find keep compute) :=
  remembered_keeps stable checked (rem.stable stable) fun sound h => kept rem sound h

theorem invariant : Invariant (Sound past) fun _ => True where
  toStable := stable
  forgotten sound := by
    refine ⟨sound.driver, sound.link, sound.ahead, ?_⟩
    intro _ call reply known
    rw [stored_fresh] at known
    cases known
  restarted sound := by
    refine ⟨sound.driver, sound.link, Nat.le_refl _, ?_⟩
    intro _ call reply known
    rw [stored_fresh] at known
    cases known
  dropped sound := by
    refine ⟨sound.driver, ?_, sound.ahead, sound.entries⟩
    intro link eq
    obtain ⟨old, holds, rfl⟩ := Option.map_eq_some_iff.mp eq
    exact sound.link old holds
  engineVersion _ := remembered engineVersion_remembers
  serverVersion _ := remembered serverVersion_remembers
  limit c _ := remembered (limit_remembers c)

end Sound

/-! ### Runs -/

namespace State

theorem perform_snd (s : State) (a : Action α) : (s.perform a).2 = a.final s.cleared := by
  unfold perform final cleared
  cases a { s with events := [], records := [] } <;> rfl

theorem perform_ok {a : Action α} {x : α} (h : s.perform a = (.ok x, t)) :
    a s.cleared = .ok x t := by
  unfold perform at h
  unfold cleared
  cases result : a { s with events := [], records := [] } with
  | ok y u =>
    rw [result] at h
    cases h
    rfl
  | error f u =>
    rw [result] at h
    cases h

theorem perform_of_ok {a : Action α} {x : α} (h : a s.cleared = .ok x t) :
    s.perform a = (.ok x, t) := by
  unfold cleared at h
  unfold perform
  rw [h]

theorem perform_of_error {a : Action α} (h : a s.cleared = .error f t) :
    s.perform a = (.error f, t) := by
  unfold cleared at h
  unfold perform
  rw [h]

theorem perform_error {a : Action α} (h : s.perform a = (.error f, t)) :
    a s.cleared = .error f t := by
  unfold perform at h
  unfold cleared
  cases result : a { s with events := [], records := [] } with
  | ok y u =>
    rw [result] at h
    cases h
  | error e u =>
    rw [result] at h
    cases h
    rfl

end State

namespace Sound

variable {past future : Call → Nat → Reply → Prop}

theorem mono (sound : Sound past s)
    (grows : ∀ call n reply, past call n reply → future call n reply) : Sound future s :=
  { sound with
    entries := fun current call reply known =>
      (sound.entries current call reply known).imp_left (grows call _ reply) }

theorem next (sound : Sound past s) :
    Sound (fun call n reply => past call n reply ∨ s.Read call n reply) s.cleared :=
  { sound with
    entries := fun current call reply known =>
      Or.inl (sound.entries current call reply known) }

theorem step (sound : Sound past s.cleared) {step : Step} (driven : step.isRenewal = false) :
    Sound past (s.perform step.action).2 := by
  rw [State.perform_snd]
  by_cases change : ∃ g, step = .alter g
  · obtain ⟨g, rfl⟩ := change
    refine ⟨sound.driver, sound.link, sound.ahead, ?_⟩
    intro current call reply known
    rcases sound.entries current call reply known with before | ⟨e, mem, -⟩
    · exact Or.inl before
    · cases mem
  · exact invariant.step (fun g eq => change ⟨g, eq⟩) driven (fun _ _ => trivial) _ sound

/-- What is remembered after some steps was read before or in one of them. -/
theorem after (sound : Sound past s.cleared) (steps : List Step)
    (driven : ∀ step ∈ steps, step.isRenewal = false) :
    Sound (fun call n reply => past call n reply ∨ ∃ u ∈ s.trace steps, u.Read call n reply)
      (s.after steps).cleared := by
  -- The readings of the first step become past ones for the rest.
  induction steps generalizing s past with
  | nil => exact sound.mono fun call n reply before => Or.inl before
  | cons step rest ih =>
    have stepped := (sound.step (driven step List.mem_cons_self)).next
    have rest := ih stepped fun other mem => driven other (List.mem_cons_of_mem _ mem)
    apply rest.mono
    rintro call n reply ((before | read) | ⟨u, mem, read⟩)
    · exact Or.inl before
    · exact Or.inr ⟨_, List.mem_cons_self, read⟩
    · exact Or.inr ⟨u, List.mem_cons_of_mem _ mem, read⟩

theorem start {server : Server} {driver : Driver} {threshold : Datum} {start : State}
    (h : State.overDriver server driver threshold = .ok start) :
    Sound (fun _ _ _ => False) start.cleared := by
  unfold State.overDriver at h
  obtain ⟨given, -, h⟩ := bind_eq_ok h
  obtain ⟨milliseconds, -, h⟩ := bind_eq_ok h
  cases h
  refine ⟨⟨driver, rfl⟩, ?_, Nat.le_refl _, ?_⟩
  · intro link eq
    cases eq
  · intro _ call reply known
    exact absurd known (by rw [State.cleared, stored_fresh]; simp)

/-! ### Calls -/

theorem call_cases (sound : Sound past s) (h : call.step.action s = .ok reply t) :
    (call.stored s.checked.memo = some reply ∧ ∃ records, t = s.checked.noted [] records) ∨
      t.Read call t.generation reply := by
  obtain ⟨α, shown, find, keep, compute, rem, eq⟩ := remembers call
  rw [eq] at h
  obtain ⟨x, u, answered, h⟩ := bind_ok h
  obtain ⟨rfl, rfl⟩ := pure_ok h
  rcases remembered_ok answered with ⟨records, found, rfl⟩ | ⟨records, u, -, computing, rfl⟩
  · left
    refine ⟨?_, records, rfl⟩
    rw [rem.stores, found]
    rfl
  · exact Or.inr (computed rem (stable.noted _ _ sound.checked) computing).2

theorem call_ok (sound : Sound past s) (h : call.step.action s = .ok reply t) :
    past call t.generation reply ∨ t.Read call t.generation reply := by
  rcases sound.call_cases h with ⟨known, records, rfl⟩ | read
  · have current : s.checked.memo.generation = s.checked.generation := by simp
    rcases sound.checked.entries current call _ known with before | read
    · exact Or.inl before
    · exact Or.inr (State.Read.noted read [] records)
  · exact Or.inr read

theorem call_unknown (sound : Sound past s) (unknown : call.stored s.memo = none)
    (h : call.step.action s = .ok reply t) : t.Read call t.generation reply := by
  rcases sound.call_cases h with ⟨known, -, -⟩ | read
  · rcases checked_cases s with ⟨-, eq⟩ | ⟨-, eq⟩
    · rw [eq, unknown] at known
      cases known
    · rw [eq, stored_fresh] at known
      cases known
  · exact read

end Sound

theorem stable_memo (memo : Memo) :
    Stable fun s => (∃ driver, s.access = .driver driver) ∧ s.memo = memo where
  driver holds := holds.1
  noted _ _ holds := holds
  opened _ holds := holds
  closed holds := holds

theorem call_error {driver : Driver} (access : s.access = .driver driver)
    (h : call.step.action s = .error f t) :
    call.stored t.memo = none ∧
      ∀ (other : Call) (reply : Reply), other.stored t.memo = some reply →
        other.stored s.memo = some reply := by
  obtain ⟨α, shown, find, keep, compute, rem, eq⟩ := remembers call
  rw [eq] at h
  have failed : remembered find keep compute s = .error f t := by
    rcases bind_error h with failed | ⟨x, u, -, h⟩
    · exact failed
    · cases h
  obtain ⟨records, unknown, computing⟩ := remembered_error failed
  have memo : t.memo = s.checked.memo :=
    ((rem.stable (stable_memo s.checked.memo)).error ⟨⟨driver, by simpa using access⟩, by simp⟩
      computing).2
  rw [memo]
  refine ⟨by rw [rem.stores, unknown]; rfl, ?_⟩
  intro other reply known
  rcases checked_cases s with ⟨-, eq⟩ | ⟨-, eq⟩
  · rwa [eq] at known
  · rw [eq, stored_fresh] at known
    cases known

/-- A session over a driver that has no answer to a call. -/
def Unknown (call : Call) (s : State) : Prop :=
  (∃ driver, s.access = .driver driver) ∧ call.stored s.memo = none

namespace Unknown

theorem stable : Stable (Unknown call) where
  driver holds := holds.1
  noted _ _ holds := holds
  opened _ holds := holds
  closed holds := holds

theorem checked (unknown : Unknown call s) : Unknown call s.checked := by
  rcases checked_cases s with ⟨-, eq⟩ | ⟨-, eq⟩
  · rwa [eq]
  · rw [eq]
    exact ⟨unknown.1, stored_fresh call _⟩

theorem remembered {other : Call} {shown : α → Reply} {find : Memo → Option α}
    {keep : Memo → α → Memo} {compute : Action α} (rem : Remembers other shown find keep compute)
    (different : other ≠ call) : Keeps (Unknown call) (remembered find keep compute) := by
  apply remembered_keeps stable checked (rem.stable stable)
  intro s x u unknown computing
  have after := (rem.stable stable).ok unknown computing
  exact ⟨after.1, by rw [rem.others call different.symm]; exact after.2⟩

theorem invariant : Invariant (Unknown call) (· ≠ call) where
  toStable := stable
  forgotten unknown := ⟨unknown.1, stored_fresh call _⟩
  restarted unknown := ⟨unknown.1, stored_fresh call _⟩
  dropped unknown := unknown
  engineVersion different := remembered engineVersion_remembers different
  serverVersion different := remembered serverVersion_remembers different
  limit c different := remembered (limit_remembers c) different

theorem step (unknown : Unknown call s) {step : Step} (driven : step.isRenewal = false)
    (other : step.asks call = false) : Unknown call (s.perform step.action).2 := by
  rw [State.perform_snd]
  by_cases change : ∃ g, step = .alter g
  · obtain ⟨g, rfl⟩ := change
    exact unknown
  · have asked : ∀ different, step.asks different → different ≠ call := by
      rintro different asks rfl
      rw [other] at asks
      cases asks
    exact invariant.step (fun g eq => change ⟨g, eq⟩) driven asked _ unknown

theorem after (unknown : Unknown call s) (steps : List Step)
    (quiet : ∀ step ∈ steps, step.isRenewal = false ∧ step.asks call = false) :
    Unknown call (s.after steps) := by
  induction steps generalizing s with
  | nil => exact unknown
  | cons step rest ih =>
    obtain ⟨driven, other⟩ := quiet step List.mem_cons_self
    exact ih (unknown.step driven other) fun later mem => quiet later (List.mem_cons_of_mem _ mem)

end Unknown

/-- Whenever a remembered call returns, its reply was read on the connection that is then the
session's last one, in the call itself or in an earlier step.  A call that fails adds nothing to the
memory, and the next call of its kind reads its reply anew if it returns one. -/
theorem perform_read {server : Server} {driver : Driver} {threshold : Datum} {start : State}
    (started : State.overDriver server driver threshold = .ok start) (steps : List Step)
    (driven : ∀ step ∈ steps, step.isRenewal = false) (call : Call) :
    (∀ reply t, (start.after steps).perform call.step.action = (.ok reply, t) →
      ∃ u ∈ start.trace steps ++ [t], u.Read call t.generation reply) ∧
    ∀ f t, (start.after steps).perform call.step.action = (.error f, t) →
      (∀ (other : Call) (reply : Reply), other.stored t.memo = some reply →
        other.stored (start.after steps).memo = some reply) ∧
      ∀ more : List Step, (∀ step ∈ more, step.isRenewal = false ∧ step.asks call = false) →
        ∀ reply u, (t.after more).perform call.step.action = (.ok reply, u) →
          u.Read call u.generation reply := by
  have sound := (Sound.start started).after steps driven
  refine ⟨?_, ?_⟩
  · intro reply t returns
    rcases sound.call_ok (State.perform_ok returns) with (none | ⟨u, mem, read⟩) | read
    · exact none.elim
    · exact ⟨u, List.mem_append_left _ mem, read⟩
    · exact ⟨t, List.mem_append_right _ List.mem_cons_self, read⟩
  · intro f t fails
    have raised := State.perform_error fails
    obtain ⟨d, access⟩ := sound.driver
    obtain ⟨unknown, added⟩ := call_error access raised
    refine ⟨added, ?_⟩
    intro more quiet reply u returns
    have failed : ((start.after steps).perform call.step.action).2 = t := by rw [fails]
    have stepped := (sound.step call.isRenewal_step).next
    have later := stepped.after more fun step mem => (quiet step mem).1
    rw [failed] at later
    have forgotten : Unknown call (t.after more) := by
      refine Unknown.after ⟨?_, unknown⟩ more quiet
      rw [← failed]
      exact (sound.step call.isRenewal_step).driver
    exact later.call_unknown forgotten.2 (State.perform_ok returns)

def State.fresh : State where
  server := { handshake := .number (.int 140000) }
  access := .driver .complete
  generation := 0
  threshold := 100
  memo := { generation := 0 }

theorem fresh_started :
    State.overDriver { handshake := .number (.int 140000) } .complete .null = .ok State.fresh := rfl

def State.linked (server : Server) : State :=
  { State.fresh with server }.opened { url := "crate://u@h" }

def replacement (s : Server) : Server :=
  { s with probe := .cells [.text "0.56.0"], standardStrings := .text "off" }

/-- Steps after which the connection has dropped and another server has taken the place of its
peer. -/
def replacing : List Step :=
  [.connect ⟨.url "crate://u@h", {}, none⟩, .engineVersion, .drop, .alter replacement]

theorem perform_read_replacing :
    ∃ reply t,
      (State.fresh.after (replacing ++ [.serverVersion])).perform Call.engineVersion.step.action =
        (.ok reply, t) ∧
      ∃ u ∈ State.fresh.trace (replacing ++ [.serverVersion]) ++ [t],
        u.Read .engineVersion t.generation reply := by
  have driven : ∀ step ∈ replacing ++ [.serverVersion], step.isRenewal = false := by
    intro step mem
    simp only [replacing, List.cons_append, List.nil_append, List.mem_cons, List.not_mem_nil,
      or_false] at mem
    rcases mem with rfl | rfl | rfl | rfl | rfl <;> rfl
  have returned : (match ((State.fresh.after (replacing ++ [.serverVersion])).perform
      Call.engineVersion.step.action).1 with
      | .ok _ => true
      | .error _ => false) = true := by
    decide +kernel
  cases result : (State.fresh.after (replacing ++ [.serverVersion])).perform
      Call.engineVersion.step.action with
  | mk outcome t =>
    rw [result] at returned
    cases outcome with
    | error f => cases returned
    | ok reply =>
      have read := (perform_read fresh_started _ driven .engineVersion).1 reply t result
      exact ⟨reply, t, rfl, read⟩

end SystemCatalog.Session
