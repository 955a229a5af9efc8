import Mathlib.Data.List.Induction
import SystemCatalog.Proofs.Session.Opening
import SystemCatalog.Session.Count

/-!
# How often a constant is read

A constant is read on a connection by the call that opens the connection, if that call asks for it
and returns, and by the first call that returns on the connection once it is open: `readings_twice`.
The two do not know of each other, so that a constant can be read twice: `not_always_once`.
-/

namespace SystemCatalog.Session

open Connection (Config)
open Journal (Record)
open Session.Action

variable {α : Type} {s t : State} {f : Fault} {call : Call} {driver : Driver}

/-! ### What a computation reads -/

theorem versionProbe_ne_query (c : Constant) : versionProbe ≠ c.query := by
  cases c <;> decide

theorem query_inj {c d : Constant} (same : c.query = d.query) : c = d := by
  cases c <;> cases d
  · rfl
  · exact absurd same (by decide)
  · exact absurd same (by decide)
  · rfl

theorem reading?_of_not_asks {e : Event} (quiet : e.asks = false) (server : Server) (n : Nat)
    (call : Call) : call.reading? server n e = none := by
  cases e with
  | connecting conninfo options => cases call <;> rfl
  | cursor => cases call <;> rfl
  | closing => cases call <;> rfl
  | statement m sql parameters => cases quiet
  | handshake m => cases quiet

theorem reading?_of_failure {server : Server} (fails : server.failure ≠ none) (call : Call)
    (n m : Nat) (sql : String) : call.reading? server n (.statement m sql none) = none := by
  have failing : server.failure.isNone = false :=
    Option.isNone_eq_false_iff.mpr (Option.isSome_iff_ne_none.mpr fails)
  cases call <;> simp [Call.reading?, failing]

/-- A computation that reads the reply to one call, once, on the connection that is ready for it.
If it fails it reads nothing. -/
structure ReadsOnce (call : Call) (compute : Action α) : Prop where
  ok : ∀ {s x t driver}, s.access = .driver driver → compute s = .ok x t →
    ∃ link u events records, Ready s link u ∧ t = u.noted events records ∧
      ∀ (other : Call) (n : Nat),
        events.countP (fun e => (other.reading? s.server n e).isSome) =
          if other = call ∧ n = link.number then 1 else 0
  error : ∀ {s f t driver}, s.access = .driver driver → compute s = .error f t →
    (∃ events records, Vain s events ∧ t = s.noted events records) ∨
      ∃ link u events records, Ready s link u ∧ t = u.noted events records ∧
        ∀ e ∈ events, ∀ (other : Call) (n : Nat), other.reading? s.server n e = none

theorem unread_statement {server : Server} {m : Nat} {sql : String}
    (unread : ∀ (other : Call) (n : Nat),
      other.reading? server n (.statement m sql none) = none) :
    ∀ e ∈ [.cursor, .statement m sql none], ∀ (other : Call) (n : Nat),
      other.reading? server n e = none := by
  intro e mem other n
  rcases List.mem_cons.mp mem with rfl | mem
  · exact reading?_of_not_asks rfl server n other
  · rw [List.mem_singleton.mp mem]
    exact unread other n

theorem probe_readsOnce : ReadsOnce .engineVersion probe where
  ok {s x t driver} access h := by
    obtain ⟨works, read, link, u, records, ready, rfl⟩ := probe_ok access h
    refine ⟨link, u, _, records, ready, rfl, fun other n => ?_⟩
    cases other with
    | engineVersion =>
      by_cases same : n = link.number
      · simp [Call.reading?, works, read, same]
      · simp [Call.reading?, same, Ne.symm same]
    | serverVersion => simp [Call.reading?]
    | limit c => simp [Call.reading?, versionProbe_ne_query c]
  error {s f t driver} access h := by
    rcases probe_error access h with unready | ⟨why, link, u, records, ready, rfl⟩
    · exact Or.inl unready
    refine Or.inr ⟨link, u, _, records, ready, rfl, unread_statement fun other n => ?_⟩
    rcases why with fails | unread
    · exact reading?_of_failure fails other n link.number versionProbe
    cases other with
    | engineVersion => simp [Call.reading?, unread]
    | serverVersion => rfl
    | limit c => simp [Call.reading?, versionProbe_ne_query c]

theorem readConstant_readsOnce (c : Constant) : ReadsOnce (.limit c) (readConstant c) where
  ok {s x t driver} access h := by
    obtain ⟨works, read, link, u, records, ready, rfl⟩ := readConstant_ok access h
    refine ⟨link, u, _, records, ready, rfl, fun other n => ?_⟩
    cases other with
    | engineVersion => simp [Call.reading?, Ne.symm (versionProbe_ne_query c)]
    | serverVersion => simp [Call.reading?]
    | limit d =>
      by_cases other : d = c
      · subst other
        by_cases same : n = link.number
        · simp [Call.reading?, works, read, Except.toOption, same]
        · simp [Call.reading?, same, Ne.symm same]
      · have different : c.query ≠ d.query := fun same => other (query_inj same).symm
        simp [Call.reading?, different, other]
  error {s f t driver} access h := by
    rcases readConstant_error access h with unready | ⟨why, link, u, records, ready, rfl⟩
    · exact Or.inl unready
    refine Or.inr ⟨link, u, _, records, ready, rfl, unread_statement fun other n => ?_⟩
    rcases why with fails | unread
    · exact reading?_of_failure fails other n link.number c.query
    cases other with
    | engineVersion => simp [Call.reading?, Ne.symm (versionProbe_ne_query c)]
    | serverVersion => rfl
    | limit d =>
      by_cases same : c.query = d.query
      · cases query_inj same
        simp [Call.reading?, unread, Except.toOption]
      · simp [Call.reading?, same]

theorem handshake_readsOnce : ReadsOnce .serverVersion handshake where
  ok {s x t driver} access h := by
    obtain ⟨read, link, u, ready, rfl⟩ := handshake_ok access h
    refine ⟨link, u, _, [], ready, rfl, fun other n => ?_⟩
    cases other with
    | engineVersion => simp [Call.reading?]
    | serverVersion =>
      by_cases same : n = link.number
      · simp [Call.reading?, read, Except.toOption, same]
      · simp [Call.reading?, same, Ne.symm same]
    | limit c => simp [Call.reading?]
  error {s f t driver} access h := by
    rcases handshake_error access h with unready | ⟨link, u, events, ready, asked, rfl⟩
    · exact Or.inl unready
    refine Or.inr ⟨link, u, events, [], ready, rfl, fun e mem other n => ?_⟩
    obtain ⟨rfl, f, unread⟩ := asked e mem
    cases other with
    | engineVersion => rfl
    | serverVersion => simp [Call.reading?, unread, Except.toOption]
    | limit c => rfl

theorem remembers_once (call : Call) :
    ∃ (α : Type) (shown : α → Reply) (find : Memo → Option α) (keep : Memo → α → Memo)
      (compute : Action α), Remembers call shown find keep compute ∧ ReadsOnce call compute ∧
        ∀ s, call.step.action s = (remembered find keep compute >>= fun x => pure (shown x)) s := by
  cases call with
  | engineVersion =>
    exact ⟨_, _, _, _, _, engineVersion_remembers, probe_readsOnce, fun _ => rfl⟩
  | serverVersion =>
    exact ⟨_, _, _, _, _, serverVersion_remembers, handshake_readsOnce, fun _ => rfl⟩
  | limit c => exact ⟨_, _, _, _, _, limit_remembers c, readConstant_readsOnce c, limit_action c⟩

/-! ### What a step reads -/

namespace State

/-- Whether the session remembers the reply to a call on its current connection. -/
def Knows (s : State) (call : Call) : Prop :=
  s.memo.generation = s.generation ∧ (call.stored s.memo).isSome

theorem knows_iff_stored : s.Knows call ↔ (call.stored s.checked.memo).isSome := by
  unfold Knows
  rcases checked_cases s with ⟨same, eq⟩ | ⟨other, eq⟩
  · simp [eq, same]
  · simp [eq, stored_fresh, Ne.symm other]

theorem knows_noted (events : List Event) (records : List Record) :
    (s.noted events records).Knows call ↔ s.Knows call := Iff.rfl

theorem knows_checked : s.checked.Knows call ↔ s.Knows call := by
  rw [knows_iff_stored (s := s)]
  simp [Knows]

theorem not_knows_of_older (older : s.memo.generation < s.generation) : ¬ s.Knows call :=
  fun known => absurd known.1 (Nat.ne_of_lt older)

theorem reads_eq_zero {n : Nat} (unread : ∀ e ∈ s.events, call.reading? s.server n e = none) :
    s.reads call n = 0 :=
  List.countP_eq_zero.mpr fun e mem => by simp [unread e mem]

end State

/-- What a step does to the memory and reads, when it makes the calls `returned` and they return:
it reads what is not known yet, on the connection that is then the last one. -/
structure Uses (s : State) (returned : Call → Prop) (t : State) : Prop where
  generation : t.generation = s.generation ∨ t.generation = s.generation + 1
  knows : ∀ call, t.Knows call ↔ t.generation = s.generation ∧ (s.Knows call ∨ returned call)
  known : ∀ call, returned call → s.Knows call → t.generation = s.generation
  once : ∀ call n, t.reads call n ≤ 1
  reads : ∀ call n, 0 < t.reads call n ↔ returned call ∧ ¬ s.Knows call ∧ n = t.generation

namespace Uses

variable {returned : Call → Prop}

theorem quiet (silent : ∀ call, ¬ returned call) (generation : t.generation = s.generation)
    (knows : ∀ call, t.Knows call ↔ s.Knows call) (unread : ∀ call n, t.reads call n = 0) :
    Uses s returned t where
  generation := Or.inl generation
  knows call := by simp [knows, silent, generation]
  known call answered := absurd answered (silent call)
  once call n := by simp [unread]
  reads call n := by simp [unread, silent]

theorem opened (silent : ∀ call, ¬ returned call) (generation : t.generation = s.generation + 1)
    (older : t.memo.generation ≤ s.generation) (unread : ∀ call n, t.reads call n = 0) :
    Uses s returned t where
  generation := Or.inr generation
  knows call := by
    have unknown : ¬ t.Knows call := State.not_knows_of_older (by omega)
    simp [unknown, generation]
  known call answered := absurd answered (silent call)
  once call n := by simp [unread]
  reads call n := by simp [unread, silent]

theorem vain (silent : ∀ call, ¬ returned call) (unseen : s.events = []) {events : List Event}
    (vain : Vain s events) (records : List Record) : Uses s returned (s.noted events records) := by
  refine quiet silent rfl (fun _ => Iff.rfl) fun call n => State.reads_eq_zero fun e mem => ?_
  rw [State.events_noted, unseen, List.nil_append] at mem
  exact reading?_of_not_asks (vain e mem).1 _ _ _

theorem of_cleared (h : Uses s.cleared returned t) : Uses s returned t :=
  ⟨h.generation, h.knows, h.known, h.once, h.reads⟩

theorem of_checked {records : List Record} (h : Uses (s.checked.noted [] records) returned t) :
    Uses s returned t := by
  have generation : (s.checked.noted [] records).generation = s.generation := by simp
  have knows : ∀ call, (s.checked.noted [] records).Knows call ↔ s.Knows call :=
    fun _ => State.knows_checked
  obtain ⟨moves, known, recalled, once, reads⟩ := h
  simp only [generation, knows] at moves known recalled reads
  exact ⟨moves, known, recalled, once, reads⟩

end Uses

/-- A call whose reply is not known reads it on the connection that is ready, or fails and reads
nothing. -/
theorem Ready.uses {past : Call → Nat → Reply → Prop} {link : Link} {u : State}
    {events : List Event} {records : List Record} {memo : Memo} {returned : Call → Prop}
    (ready : Ready s link u) (sound : Sound past s) (unseen : s.events = [])
    (current : s.memo.generation = s.generation) (kept : memo.generation = s.memo.generation)
    (stored : ∀ other, (other.stored memo).isSome ↔
      (other.stored s.memo).isSome ∨ returned other)
    (unknown : ∀ other, returned other → ¬ s.Knows other)
    (count : ∀ (other : Call) (n : Nat),
      events.countP (fun e => (other.reading? s.server n e).isSome) ≤ 1 ∧
        (0 < events.countP (fun e => (other.reading? s.server n e).isSome) ↔
          returned other ∧ n = link.number)) :
    Uses s returned { u.noted events records with memo } := by
  have number : link.number = u.generation := sound.number_eq ready
  have reads : ∀ (other : Call) (n : Nat), { u.noted events records with memo }.reads other n =
      events.countP (fun e => (other.reading? s.server n e).isSome) := by
    intro other n
    cases ready with
    | held => simp [State.reads, unseen]
    | replaced =>
      simp [State.reads, unseen, State.opened, State.noted,
        reading?_of_not_asks (rfl : (Event.connecting _ _).asks = false)]
  have once : ∀ (other : Call) (n : Nat),
      { u.noted events records with memo }.reads other n ≤ 1 := fun other n => by
    rw [reads]
    exact (count other n).1
  have new : ∀ (other : Call) (n : Nat), 0 < { u.noted events records with memo }.reads other n ↔
      returned other ∧ ¬ s.Knows other ∧ n = u.generation := by
    intro other n
    rw [reads, (count other n).2, number]
    exact ⟨fun h => ⟨h.1, unknown other h.1, h.2⟩, fun h => ⟨h.1, h.2.2⟩⟩
  cases ready with
  | held holds live =>
    refine ⟨Or.inl rfl, fun other => ?_, fun other answered known => rfl, once, new⟩
    simp [State.Knows, kept, current, stored]
  | replaced holds dropped accepted conninfo options earlier =>
    refine ⟨Or.inr rfl, fun other => ⟨fun knows => ?_, fun h => ?_⟩, fun other answered known => ?_,
      once, new⟩
    · have same : memo.generation = s.generation + 1 := knows.1
      omega
    · exact absurd h.1 (Nat.succ_ne_self s.generation)
    · exact absurd known (unknown other answered)

/-! ### What a call reads -/

section Called

variable {past : Call → Nat → Reply → Prop} {reply : Reply}

theorem call_uses_ok (sound : Sound past s) (unseen : s.events = [])
    (h : call.step.action s = .ok reply t) : Uses s (· = call) t := by
  obtain ⟨driver, access⟩ := sound.driver
  obtain ⟨α, shown, find, keep, compute, rem, once, eq⟩ := remembers_once call
  have stored : (call.stored s.checked.memo).isSome = (find s.checked.memo).isSome := by
    simp [rem.stores]
  rw [eq] at h
  obtain ⟨x, w, answered, h⟩ := bind_ok h
  obtain ⟨rfl, rfl⟩ := pure_ok h
  rcases remembered_ok answered with ⟨records, found, rfl⟩ | ⟨records, v, unknown, computing, rfl⟩
  · have known : s.Knows call := by
      rw [State.knows_iff_stored, stored, found]
      rfl
    have unread : ∀ (other : Call) (n : Nat), (s.checked.noted [] records).reads other n = 0 :=
      fun other n => State.reads_eq_zero (by simp [unseen])
    refine ⟨Or.inl (by simp), fun other => ?_, fun other _ _ => by simp, fun other n => ?_,
      fun other n => ?_⟩
    · rw [State.knows_noted, State.knows_checked]
      simp only [State.generation_noted, generation_checked, true_and]
      exact ⟨Or.inl, fun h => h.elim id fun same => same ▸ known⟩
    · simp [unread]
    · rw [unread]
      refine ⟨fun read => absurd read (Nat.lt_irrefl 0), ?_⟩
      rintro ⟨rfl, new, -⟩
      exact absurd known new
  · obtain ⟨link, u, events, more, ready, rfl, count⟩ := once.ok (by simpa using access) computing
    have memo : u.memo = s.checked.memo := ready.memo_eq
    have new : ¬ s.Knows call := by
      rw [State.knows_iff_stored, stored, unknown]
      simp
    refine Uses.of_checked (ready.uses (Sound.stable.noted [] records sound.checked)
      (by simp [unseen]) (by simp) ?_ ?_ ?_ ?_)
    · rw [rem.generation, State.memo_noted, memo, State.memo_noted]
    · intro other
      rw [State.memo_noted, memo, State.memo_noted]
      by_cases same : other = call
      · simp [same, rem.keeps]
      · simp [same, rem.others other same]
    · rintro other rfl known
      exact new (State.knows_checked.mp known)
    · intro other n
      rw [count other n]
      split <;> simp_all

theorem call_uses_error (sound : Sound past s) (unseen : s.events = [])
    (h : call.step.action s = .error f t) : Uses s (fun _ => False) t := by
  obtain ⟨driver, access⟩ := sound.driver
  obtain ⟨α, shown, find, keep, compute, rem, once, eq⟩ := remembers_once call
  rw [eq] at h
  have failed : remembered find keep compute s = .error f t := by
    rcases bind_error h with failed | ⟨x, u, -, impossible⟩
    · exact failed
    · cases impossible
  obtain ⟨records, -, computing⟩ := remembered_error failed
  rcases once.error (by simpa using access) computing with ⟨events, more, vain, rfl⟩ |
    ⟨link, u, events, more, ready, rfl, unread⟩
  · have kept : Uses (s.checked.noted [] records) (fun _ => False)
        ((s.checked.noted [] records).noted events more) :=
      Uses.vain (fun _ => id) (by simp [unseen]) vain more
    exact kept.of_checked
  · have memo : u.memo = (s.checked.noted [] records).memo := ready.memo_eq
    have kept : Uses (s.checked.noted [] records) (fun _ => False)
        { u.noted events more with memo := u.memo } := by
      refine ready.uses (Sound.stable.noted [] records sound.checked) (by simp [unseen]) (by simp)
        (congrArg Memo.generation memo) ?_ ?_ ?_
      · intro other
        rw [memo, or_false]
      · intro other impossible
        exact impossible.elim
      · intro other n
        rw [List.countP_eq_zero.mpr fun e mem => by rw [unread e mem other n]; simp]
        simp
    exact kept.of_checked

end Called

/-! ### What a step reads -/

def Step.call? : Step → Option Call
  | .engineVersion => some .engineVersion
  | .serverVersion => some .serverVersion
  | .maxNameLength => some (.limit .nameWidth)
  | .maxIndexKeys => some (.limit .indexKeys)
  | _ => none

theorem Call.call?_step (call : Call) : call.step.call? = some call := by
  cases call with
  | engineVersion => rfl
  | serverVersion => rfl
  | limit c => cases c <;> rfl

theorem Call.step_inj {other : Call} (same : call.step = other.step) : call = other := by
  have found := congrArg Step.call? same
  rw [call.call?_step, other.call?_step] at found
  exact Option.some.inj found

theorem Call.step_ne {step : Step} (none : step.call? = none) (call : Call) :
    step ≠ call.step := by
  rintro rfl
  rw [call.call?_step] at none
  cases none

theorem connecting_uses {returned : Call → Prop} (silent : ∀ call, ¬ returned call)
    (unseen : s.events = []) (older : s.memo.generation ≤ s.generation)
    (request : Connection.Request) :
    Uses s returned ((Step.connect request).action.final s) := by
  cases result : (Step.connect request).action s with
  | ok reply t =>
    rw [final_ok result]
    obtain ⟨config, _, converted, result⟩ := bind_ok result
    obtain ⟨-, rfl⟩ := ofExcept_ok converted
    obtain ⟨link, u, opened, result⟩ := bind_ok result
    obtain ⟨-, rfl⟩ := pure_ok result
    obtain ⟨-, -, conninfo, options, records, rfl⟩ := connect_ok opened
    refine Uses.opened silent rfl older fun call n => State.reads_eq_zero fun e mem => ?_
    rw [State.events_noted, State.events_opened, unseen, List.nil_append] at mem
    rw [List.mem_singleton.mp mem]
    exact reading?_of_not_asks rfl _ _ _
  | error f t =>
    rw [final_error result]
    obtain ⟨events, records, vain, rfl⟩ := connecting_error result
    exact Uses.vain silent unseen vain records

theorem closing_uses {returned : Call → Prop} (silent : ∀ call, ¬ returned call)
    (unseen : s.events = []) : Uses s returned (Step.close.action.final s) := by
  obtain ⟨same, quiet⟩ := closing_final s
  have memo : (Step.close.action.final s).memo = s.memo := same.memo_eq
  have generation : (Step.close.action.final s).generation = s.generation := same.generation_eq
  refine Uses.quiet silent generation (fun call => ?_) fun call n =>
    State.reads_eq_zero fun e mem => ?_
  · rw [State.Knows, State.Knows, memo, generation]
  · rcases quiet e mem with old | rfl
    · rw [unseen] at old
      cases old
    · exact reading?_of_not_asks rfl _ _ _

def Step.Answers (step : Step) (s : State) (call : Call) : Prop :=
  step = call.step ∧ ∃ reply, (s.perform step.action).1 = .ok reply

section Used

variable {past : Call → Nat → Reply → Prop}

theorem call_uses (sound : Sound past s.cleared) (call : Call) :
    Uses s (call.step.Answers s) (s.perform call.step.action).2 := by
  have same : ∀ other, call.step = other.step ↔ other = call := fun other =>
    ⟨fun h => (Call.step_inj h).symm, fun h => by rw [h]⟩
  cases result : s.perform call.step.action with
  | mk outcome t =>
    cases outcome with
    | ok reply =>
      have answers : call.step.Answers s = (· = call) :=
        funext fun other => propext (by simp [Step.Answers, result, same])
      rw [answers]
      exact (call_uses_ok sound rfl (State.perform_ok result)).of_cleared
    | error f =>
      have fails : call.step.Answers s = fun _ => False :=
        funext fun other => propext (by simp [Step.Answers, result])
      rw [fails]
      exact (call_uses_error sound rfl (State.perform_error result)).of_cleared

theorem step_uses (sound : Sound past s.cleared) {step : Step} (use : step.isUse = true) :
    Uses s (step.Answers s) (s.perform step.action).2 := by
  have silent (none : step.call? = none) : ∀ call, ¬ step.Answers s call := fun call h =>
    Call.step_ne none call h.1
  cases step with
  | alter g =>
    exact Uses.quiet (silent rfl) rfl (fun _ => Iff.rfl) fun call n => rfl
  | drop =>
    exact Uses.quiet (silent rfl) rfl (fun _ => Iff.rfl) fun call n => rfl
  | connect request =>
    rw [State.perform_snd]
    exact (connecting_uses (silent rfl) rfl sound.ahead request).of_cleared
  | close =>
    rw [State.perform_snd]
    exact (closing_uses (silent rfl) rfl).of_cleared
  | engineVersion => exact call_uses sound .engineVersion
  | serverVersion => exact call_uses sound .serverVersion
  | maxNameLength => exact call_uses sound (.limit .nameWidth)
  | maxIndexKeys => exact call_uses sound (.limit .indexKeys)
  | _ => cases use

end Used

/-! ### What a run reads -/

namespace State

theorem after_concat (s : State) (steps : List Step) (step : Step) :
    s.after (steps ++ [step]) = ((s.after steps).perform step.action).2 := by
  induction steps generalizing s with
  | nil => rfl
  | cons first rest ih => exact ih _

theorem trace_concat (s : State) (steps : List Step) (step : Step) :
    s.trace (steps ++ [step]) = s.trace steps ++ [((s.after steps).perform step.action).2] := by
  induction steps generalizing s with
  | nil => rfl
  | cons first rest ih => exact congrArg (_ :: ·) (ih _)

theorem readings_concat (trace : List State) (t : State) (call : Call) (n : Nat) :
    readings (trace ++ [t]) call n = readings trace call n + t.reads call n := by
  simp [readings]

theorem not_returns_nil {start : State} {n m : Nat} : ¬ Returns start [] call n m := by
  rintro ⟨earlier, later, reply, t, eq, -⟩
  simp at eq

theorem returns_concat {start : State} {steps : List Step} {step : Step} {n m : Nat} :
    Returns start (steps ++ [step]) call n m ↔ Returns start steps call n m ∨
      step.Answers (start.after steps) call ∧ (start.after steps).generation = n ∧
        (start.after (steps ++ [step])).generation = m := by
  constructor
  · rintro ⟨earlier, later, reply, t, eq, before, returns, after⟩
    rcases List.eq_nil_or_concat later with rfl | ⟨rest, last, rfl⟩
    · obtain ⟨rfl, same⟩ := List.append_inj' eq rfl
      obtain rfl := List.head_eq_of_cons_eq same
      refine Or.inr ⟨⟨rfl, reply, by rw [returns]⟩, before, ?_⟩
      rw [after_concat, returns]
      exact after
    · rw [List.concat_eq_append, ← List.cons_append, ← List.append_assoc] at eq
      obtain ⟨rfl, -⟩ := List.append_inj' eq rfl
      exact Or.inl ⟨earlier, rest, reply, t, rfl, before, returns, after⟩
  · rintro (⟨earlier, later, reply, t, rfl, found⟩ | ⟨⟨rfl, reply, returns⟩, before, after⟩)
    · exact ⟨earlier, later ++ [step], reply, t, by simp, found⟩
    · rw [after_concat] at after
      exact ⟨steps, [], reply, _, rfl, before, Prod.ext returns rfl, after⟩

theorem opens_concat {start : State} {steps : List Step} {step : Step} {n : Nat} :
    Opens start (steps ++ [step]) call n ↔ Opens start steps call n ∨
      step.Answers (start.after steps) call ∧ (start.after steps).generation < n ∧
        (start.after (steps ++ [step])).generation = n := by
  simp only [Opens, returns_concat]
  constructor
  · rintro ⟨m, older, before | ⟨answers, rfl, opened⟩⟩
    · exact Or.inl ⟨m, older, before⟩
    · exact Or.inr ⟨answers, older, opened⟩
  · rintro (⟨m, older, before⟩ | ⟨answers, older, opened⟩)
    · exact ⟨m, older, Or.inl before⟩
    · exact ⟨_, older, Or.inr ⟨answers, rfl, opened⟩⟩

end State

/-- The readings in some steps agree with the calls that have returned, and so does the memory. -/
structure Tallied (start : State) (steps : List Step) : Prop where
  bounded : ∀ call n m, State.Returns start steps call n m → m ≤ (start.after steps).generation
  knows : ∀ call, (start.after steps).Knows call ↔
    State.Returns start steps call (start.after steps).generation (start.after steps).generation
  twice : ∀ call n, State.readings (start.trace steps) call n ≤ 2
  once : ∀ call n, 0 < State.readings (start.trace steps) call n ↔
    State.Opens start steps call n ∨ State.Returns start steps call n n
  both : ∀ call n, 1 < State.readings (start.trace steps) call n ↔
    State.Opens start steps call n ∧ State.Returns start steps call n n

namespace Tallied

variable {start : State} {steps : List Step} {step : Step}

theorem nil (unknown : ∀ call, ¬ start.Knows call) : Tallied start [] where
  bounded call n m returns := absurd returns State.not_returns_nil
  knows call := iff_of_false (unknown call) State.not_returns_nil
  twice call n := by simp [State.trace, State.readings]
  once call n := by
    simp [State.trace, State.readings, State.Opens, State.not_returns_nil]
  both call n := by
    simp [State.trace, State.readings, State.not_returns_nil]

theorem concat (h : Tallied start steps)
    (uses : Uses (start.after steps) (step.Answers (start.after steps))
      (start.after (steps ++ [step]))) : Tallied start (steps ++ [step]) := by
  have bounded : ∀ call n m, State.Returns start (steps ++ [step]) call n m →
      m ≤ (start.after (steps ++ [step])).generation := by
    intro call n m returns
    have moves := uses.generation
    rcases State.returns_concat.mp returns with before | ⟨-, -, rfl⟩
    · have old := h.bounded call n m before
      omega
    · exact Nat.le_refl _
  have tally : ∀ call n, State.readings (start.trace (steps ++ [step])) call n ≤ 2 ∧
      (0 < State.readings (start.trace (steps ++ [step])) call n ↔
        State.Opens start (steps ++ [step]) call n ∨
          State.Returns start (steps ++ [step]) call n n) ∧
      (1 < State.readings (start.trace (steps ++ [step])) call n ↔
        State.Opens start (steps ++ [step]) call n ∧
          State.Returns start (steps ++ [step]) call n n) := by
    intro call n
    have known := h.knows call
    have twice := h.twice call n
    have once := h.once call n
    have both := h.both call n
    have old : State.Opens start steps call n ∨ State.Returns start steps call n n →
        n ≤ (start.after steps).generation := by
      rintro (⟨m, -, opens⟩ | returns)
      · exact h.bounded call m n opens
      · exact h.bounded call n n returns
    have moves := uses.generation
    have recalls := uses.known call
    have single := uses.once call n
    have reads := uses.reads call n
    rw [State.trace_concat, State.readings_concat, State.opens_concat, State.returns_concat,
      ← State.after_concat]
    grind
  refine ⟨bounded, fun call => ?_, fun call n => (tally call n).1, fun call n => (tally call n).2.1,
    fun call n => (tally call n).2.2⟩
  rw [uses.knows, h.knows, State.returns_concat]
  rcases uses.generation with same | next
  · rw [same]
    simp
  · have unreturned : ¬ State.Returns start steps call (start.after (steps ++ [step])).generation
        (start.after (steps ++ [step])).generation := fun returns => by
      have old := h.bounded call _ _ returns
      omega
    have other : (start.after steps).generation ≠ (start.after (steps ++ [step])).generation := by
      omega
    simp [unreturned, other, Ne.symm other]

end Tallied

theorem Step.isRenewal_of_isUse {step : Step} (use : step.isUse = true) :
    step.isRenewal = false := by
  cases step with
  | renew => cases use
  | _ => rfl

theorem tallied {server : Server} {driver : Driver} {threshold : Datum} {start : State}
    (started : State.overDriver server driver threshold = .ok start) (steps : List Step)
    (uses : ∀ step ∈ steps, step.isUse = true) : Tallied start steps := by
  induction steps using List.reverseRecOn with
  | nil =>
    refine Tallied.nil fun call known => ?_
    have entry := (Sound.start started).entries known.1 call
    obtain ⟨reply, stored⟩ := Option.isSome_iff_exists.mp known.2
    rcases entry reply stored with never | ⟨e, mem, -⟩
    · exact never
    · cases mem
  | append_singleton steps step ih =>
    have before : ∀ other ∈ steps, other.isUse = true := fun other mem =>
      uses other (List.mem_append_left _ mem)
    have sound := (Sound.start started).after steps fun other mem =>
      Step.isRenewal_of_isUse (before other mem)
    refine (ih before).concat ?_
    rw [State.after_concat]
    exact step_uses sound (uses step (List.mem_append_right _ List.mem_cons_self))

/-- A constant is read on a connection if a call for it opens the connection and returns, or returns
on it later.  It is read once for each of the two, so twice when both happen, and never more. -/
theorem readings_twice {server : Server} {driver : Driver} {threshold : Datum} {start : State}
    (started : State.overDriver server driver threshold = .ok start) (steps : List Step)
    (uses : ∀ step ∈ steps, step.isUse = true) (call : Call) (n : Nat) :
    (0 < State.readings (start.trace steps) call n ↔
      State.Opens start steps call n ∨ State.Returns start steps call n n) ∧
    (1 < State.readings (start.trace steps) call n ↔
      State.Opens start steps call n ∧ State.Returns start steps call n n) ∧
    State.readings (start.trace steps) call n ≤ 2 := by
  have tally := tallied started steps uses
  exact ⟨tally.once call n, tally.both call n, tally.twice call n⟩

/-- Steps in which a call finds its connection dropped, and is made again. -/
def repeating : List Step :=
  [.connect ⟨.url "crate://u@h", {}, none⟩, .drop, .engineVersion, .engineVersion]

theorem isUse_repeating : ∀ step ∈ repeating, step.isUse = true := by
  intro step mem
  simp only [repeating, List.mem_cons, List.not_mem_nil, or_false] at mem
  rcases mem with rfl | rfl | rfl | rfl <;> rfl

theorem readings_repeating :
    State.readings (State.fresh.trace repeating) .engineVersion 2 = 2 := by
  decide +kernel

theorem readings_twice_repeating :
    State.readings (State.fresh.trace repeating) .engineVersion 2 = 2 ∧
      State.Opens State.fresh repeating .engineVersion 2 ∧
      State.Returns State.fresh repeating .engineVersion 2 2 := by
  have both := (readings_twice fresh_started repeating isUse_repeating .engineVersion 2).2.1
  rw [readings_repeating] at both
  exact ⟨readings_repeating, both.mp Nat.one_lt_two⟩

/-- The value that was read on a connection is not always there for the next call. -/
theorem not_always_once :
    ¬ ∀ (server : Server) (driver : Driver) (threshold : Datum) (start : State),
      State.overDriver server driver threshold = .ok start →
      ∀ steps : List Step, (∀ step ∈ steps, step.isUse = true) →
        ∀ (call : Call) (n : Nat), State.readings (start.trace steps) call n ≤ 1 := by
  intro always
  have once := always _ _ _ _ fresh_started repeating isUse_repeating .engineVersion 2
  rw [readings_repeating] at once
  exact absurd once (by decide)

end SystemCatalog.Session
