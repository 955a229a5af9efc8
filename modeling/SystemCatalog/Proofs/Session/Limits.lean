import SystemCatalog.Proofs.Session.Connecting
import SystemCatalog.Proofs.Session.Readings

/-!
# Rows with limits

A limit of the engine is read from the row that its query gives.  A call for it is meant to end with
the integer of the row's first value, or because the catalog cannot be read; `perform_limit_iff`
says for which rows it does.  A call that fails leaves nothing to remember.
-/

namespace SystemCatalog

open Catalog (RawRow)

namespace Datum

/-- Whether the value is a number without bounds, which has no integer part. -/
def isInfinite : Datum → Bool
  | float (.infinite _) => true
  | _ => false

theorem whole_eq_infinity_iff (d : Datum) :
    d.whole = .error .wholeOfInfinity ↔ d.isInfinite = true := by
  cases d with
  | float x => cases x <;> simp [whole, isInfinite]
  | text s =>
    refine iff_of_false ?_ (by simp [isInfinite])
    rw [whole]
    split <;> simp
  | _ => simp [whole, isInfinite]

end Datum

namespace Session

open Session.Action

variable {s t : State} {f : Fault} {c : Constant} {row : RawRow} {d : Datum} {reply : Reply}

def State.Answered (s : State) (c : Constant) : Prop :=
  s.server.failure = none ∧ ∃ n, .statement n c.query none ∈ s.events

/-- Whether a call for a limit ends as it is meant to: with the integer of the first value of the
row, or because the catalog cannot be read. -/
def Foreseen (c : Constant) (row : RawRow) : Except Fault Reply → Prop
  | .ok reply => ∃ n, (firstValue row).whole = .ok n ∧ reply = Call.limitReply c n
  | .error f => f.family = .unavailable

/-- Whether a row is one that limits are read from as they are meant to be.  The value in front may
not be infinite; in a dictionary it is looked for under the key zero, and must be there and stand
for the same integer as the first value, if it stands for one. -/
def IsRegular : RawRow → Prop
  | .absent => True
  | .cells values => ∀ d ∈ values.head?, d.isInfinite = false
  | .mapping entries => entries = [] ∨
    ∃ e, (entries.find? fun e => e.1.same (.int 0)) = some e ∧ e.2.isInfinite = false ∧
      ∀ n, e.2.whole = .ok n → (firstValue (.mapping entries)).whole = .ok n

/-! ### Reading a row -/

theorem limitReply_inj {m n : Int} (same : Call.limitReply c m = Call.limitReply c n) : m = n := by
  cases c with
  | nameWidth =>
    have shorter := Reply.number.inj same
    omega
  | indexKeys => exact Reply.number.inj same

theorem constantOfRow_bare (bare : isBare row = true) :
    constantOfRow c row = .error (.missingConstant c) := by
  unfold constantOfRow
  rw [bare]
  rfl

theorem constantOfRow_filled (filled : isBare row = false) (front : frontCell row = .ok d) :
    constantOfRow c row =
      if d.isNull then .error (.missingConstant c) else
        match d.whole with
        | .ok n => .ok n
        | .error .wholeOfInfinity => .error .wholeOfInfinity
        | .error _ => .error (.badConstant c d) := by
  unfold constantOfRow
  rw [filled, front]
  cases d <;> rfl

theorem constantOfRow_keyless (filled : isBare row = false) (keyless : frontCell row = .error f) :
    constantOfRow c row = .error f := by
  unfold constantOfRow
  rw [filled, keyless]
  rfl

theorem foreseen_filled_iff (filled : isBare row = false) (front : frontCell row = .ok d) :
    Foreseen c row ((constantOfRow c row).map (Call.limitReply c)) ↔
      d.isInfinite = false ∧ ∀ n, d.whole = .ok n → (firstValue row).whole = .ok n := by
  rw [constantOfRow_filled filled front]
  have infinite := d.whole_eq_infinity_iff
  cases whole : d.whole with
  | ok n =>
    have finite : d.isInfinite = false := by simpa [whole] using infinite
    have present : d.isNull = false := by
      cases d with
      | null => cases whole
      | _ => rfl
    rw [present]
    constructor
    · rintro ⟨m, first, same⟩
      obtain rfl := limitReply_inj same
      exact ⟨finite, fun k eq => by rw [← Except.ok.inj eq, first]⟩
    · rintro ⟨-, agrees⟩
      exact ⟨n, agrees n rfl, rfl⟩
  | error f =>
    by_cases null : d.isNull = true
    · rw [if_pos null]
      refine iff_of_true rfl ⟨?_, fun n eq => by cases eq⟩
      cases d with
      | null => rfl
      | _ => cases null
    · rw [if_neg null]
      rw [whole] at infinite
      cases f with
      | wholeOfInfinity =>
        rw [infinite.mp rfl]
        exact iff_of_false (fun foreseen => by cases foreseen) (by simp)
      | _ =>
        refine iff_of_true rfl ⟨?_, fun n eq => by cases eq⟩
        simpa using infinite

theorem foreseen_iff (c : Constant) (row : RawRow) :
    Foreseen c row ((constantOfRow c row).map (Call.limitReply c)) ↔ IsRegular row := by
  cases bare : isBare row with
  | true =>
    rw [constantOfRow_bare bare]
    refine iff_of_true rfl ?_
    cases row with
    | absent => trivial
    | cells values =>
      obtain rfl := List.isEmpty_iff.mp bare
      intro d mem
      cases mem
    | mapping entries => exact Or.inl (List.isEmpty_iff.mp bare)
  | false =>
    cases row with
    | absent => cases bare
    | cells values =>
      cases values with
      | nil => cases bare
      | cons d rest =>
        rw [foreseen_filled_iff bare rfl]
        simp [IsRegular, firstValue]
    | mapping entries =>
      have filled : entries ≠ [] := by simpa [isBare] using bare
      cases found : entries.find? fun e => e.1.same (.int 0) with
      | none =>
        have keyless : frontCell (.mapping entries) = .error (.missingKey (.int 0)) := by
          simp only [frontCell, found]
        rw [constantOfRow_keyless bare keyless]
        exact iff_of_false (fun foreseen => by cases foreseen) (by simp [IsRegular, filled, found])
      | some entry =>
        obtain ⟨key, d⟩ := entry
        have front : frontCell (.mapping entries) = .ok d := by simp only [frontCell, found]
        rw [foreseen_filled_iff bare front]
        simp [IsRegular, filled, found]

/-! ### Reading a limit -/

theorem timed_of_ok {α : Type} {a : Action α} {x : α} (logger name sql : String)
    (parameters : Datum) (h : a s = .ok x t) :
    ∃ record, timed logger name sql parameters a s = .ok x (t.noted [] [record]) := by
  obtain ⟨record, noted⟩ := noteTimed_eq logger name sql parameters false t
  exact ⟨record, by rw [timed, h, ← noted]⟩

theorem timed_of_error {α : Type} {a : Action α} (logger name sql : String) (parameters : Datum)
    (h : a s = .error f t) :
    ∃ record, timed logger name sql parameters a s = .error f (t.noted [] [record]) := by
  obtain ⟨record, noted⟩ := noteTimed_eq logger name sql parameters true t
  exact ⟨record, by rw [timed, h, ← noted]⟩

theorem execute_direct (access : s.access = .direct) (sql : String) (parameters : Datum) :
    execute sql parameters s =
      match s.server.failure with
      | some failure =>
        .error (.executionFailed failure.message) (s.noted [.statement s.generation sql none] [])
      | none => .ok () (s.noted [.statement s.generation sql none] []) := by
  unfold execute
  rw [bind_of_ok (get_run s), access]
  dsimp only
  rw [bind_of_ok (emit_run _ s)]
  cases s.server.failure <;> rfl

theorem readConstant_direct (access : s.access = .direct) :
    ∃ records, readConstant c s =
      match s.server.failure with
      | some failure =>
        .error (.executionFailed failure.message)
          (s.noted [.statement s.generation c.query none] records)
      | none =>
        (ofExcept (constantOfRow c (s.server.constantRow c)) : Action Int)
          (s.noted [.statement s.generation c.query none] records) := by
  have executed := execute_direct access c.query .null
  unfold readConstant
  cases fails : s.server.failure with
  | some failure =>
    rw [fails] at executed
    obtain ⟨record, asked⟩ := timed_of_error "engine.context" "engine.system_row" c.query .null
      (bind_of_error executed)
    rw [State.noted_noted] at asked
    exact ⟨[record], bind_of_error asked⟩
  | none =>
    rw [fails] at executed
    have answered : (do
        execute c.query .null
        return (← get).server.constantRow c : Action RawRow) s =
          .ok (s.server.constantRow c) (s.noted [.statement s.generation c.query none] []) :=
      bind_of_ok executed
    obtain ⟨record, asked⟩ := timed_of_ok "engine.context" "engine.system_row" c.query .null
      answered
    rw [State.noted_noted] at asked
    exact ⟨[record], bind_of_ok asked⟩

theorem readConstant_returns {n : Int} (h : readConstant c s = .ok n t) :
    t.Answered c ∧ constantOfRow c (t.server.constantRow c) = .ok n := by
  cases access : s.access with
  | direct =>
    obtain ⟨records, eq⟩ := @readConstant_direct s c access
    rw [eq] at h
    cases fails : s.server.failure with
    | some failure =>
      rw [fails] at h
      cases h
    | none =>
      rw [fails] at h
      obtain ⟨read, rfl⟩ := ofExcept_ok h
      exact ⟨⟨fails, _, List.mem_append_right _ List.mem_cons_self⟩, read⟩
  | driver d =>
    obtain ⟨works, read, link, u, records, ready, rfl⟩ := readConstant_ok access h
    rw [← ready.server_eq] at works read
    refine ⟨⟨works, link.number, ?_⟩, read⟩
    simp

theorem readConstant_fails (h : readConstant c s = .error f t) :
    t.memo = s.memo ∧ ((∀ n, .statement n c.query none ∉ s.events) → t.Answered c →
      constantOfRow c (t.server.constantRow c) = .error f) := by
  cases access : s.access with
  | direct =>
    obtain ⟨records, eq⟩ := @readConstant_direct s c access
    rw [eq] at h
    cases fails : s.server.failure with
    | some failure =>
      rw [fails] at h
      cases h
      refine ⟨rfl, fun _ answered => ?_⟩
      exact absurd answered.1 (by simp [fails])
    | none =>
      rw [fails] at h
      obtain ⟨unread, rfl⟩ := ofExcept_error h
      exact ⟨rfl, fun _ _ => unread⟩
  | driver d =>
    rcases readConstant_error access h with ⟨events, records, vain, rfl⟩ |
      ⟨failed, link, u, records, ready, rfl⟩
    · refine ⟨rfl, fun unsent answered => ?_⟩
      obtain ⟨-, n, mem⟩ := answered
      rcases List.mem_append.mp mem with before | mem
      · exact absurd before (unsent n)
      · cases (vain _ mem).1
    · refine ⟨ready.memo_eq, fun _ answered => ?_⟩
      rw [← ready.server_eq] at failed
      exact failed.resolve_left fun fails => fails answered.1

/-! ### Calls -/

theorem limit_ok (h : (Call.limit c).step.action s = .ok reply t) :
    (Call.limit c).stored s.checked.memo = some reply ∧ t.events = s.events ∨
      (Call.limit c).stored s.checked.memo = none ∧ t.Answered c ∧
        (constantOfRow c (t.server.constantRow c)).map (Call.limitReply c) = .ok reply := by
  rw [limit_action] at h
  obtain ⟨n, u, answered, h⟩ := bind_ok h
  obtain ⟨rfl, rfl⟩ := pure_ok h
  rcases remembered_ok answered with ⟨records, found, rfl⟩ | ⟨records, v, unknown, computed, rfl⟩
  · left
    refine ⟨?_, by simp⟩
    simp [Call.stored, found]
  · obtain ⟨asked, read⟩ := readConstant_returns computed
    refine Or.inr ⟨?_, asked, ?_⟩
    · simp [Call.stored, unknown]
    · rw [read]
      rfl

theorem limit_error (h : (Call.limit c).step.action s = .error f t) :
    (Call.limit c).stored t.memo = none ∧
      ((∀ n, .statement n c.query none ∉ s.events) → t.Answered c →
        (constantOfRow c (t.server.constantRow c)).map (Call.limitReply c) = .error f) := by
  rw [limit_action] at h
  have failed : remembered (·.constant c) (·.keepConstant c) (readConstant c) s = .error f t := by
    rcases bind_error h with failed | ⟨n, u, -, h⟩
    · exact failed
    · cases h
  obtain ⟨records, unknown, computed⟩ := remembered_error failed
  obtain ⟨memo, read⟩ := readConstant_fails computed
  refine ⟨?_, fun unsent answered => ?_⟩
  · rw [memo, State.memo_noted, Call.stored, unknown]
    rfl
  · rw [read (by simpa using unsent) answered]
    rfl

/-- A call for a limit that the server answers ends as it is meant to for regular rows, and for no
others.  A call that fails leaves nothing to remember, so the next one asks the server again. -/
theorem perform_limit_iff (c : Constant) {s t : State} {outcome : Except Fault Reply}
    (performed : s.perform (Call.limit c).step.action = (outcome, t)) :
    (t.Answered c → (Foreseen c (t.server.constantRow c) outcome ↔
      IsRegular (t.server.constantRow c))) ∧
    ∀ f, outcome = .error f → (Call.limit c).stored t.memo = none ∧
      ∀ u : State, u.memo = t.memo → ∀ reply v,
        u.perform (Call.limit c).step.action = (.ok reply, v) → v.Answered c := by
  have unsent : ∀ n, .statement n c.query none ∉ s.cleared.events := fun n => List.not_mem_nil
  cases outcome with
  | ok reply =>
    refine ⟨fun answered => ?_, fun f eq => by cases eq⟩
    rcases limit_ok (State.perform_ok performed) with ⟨-, quiet⟩ | ⟨-, -, read⟩
    · obtain ⟨-, n, mem⟩ := answered
      exact absurd (quiet ▸ mem) (unsent n)
    · rw [← read]
      exact foreseen_iff c _
  | error f =>
    obtain ⟨unknown, read⟩ := limit_error (State.perform_error performed)
    refine ⟨fun answered => ?_, ?_⟩
    · rw [← read unsent answered]
      exact foreseen_iff c _
    · rintro g -
      refine ⟨unknown, fun u same reply v returns => ?_⟩
      rcases limit_ok (State.perform_ok returns) with ⟨known, -⟩ | ⟨-, answered, -⟩
      · rcases checked_cases u.cleared with ⟨-, eq⟩ | ⟨-, eq⟩
        · rw [eq] at known
          have memo : u.cleared.memo = t.memo := same
          rw [memo, unknown] at known
          cases known
        · rw [eq, stored_fresh] at known
          cases known
      · exact answered

/-- A session with a server that names the column of the limit for the keys of an index. -/
def naming : State :=
  State.linked
    { handshake := .number (.int 140000), indexRow := .mapping [(.text "setting", .int 32)] }

theorem answered_naming :
    (naming.perform (Call.limit .indexKeys).step.action).2.Answered .indexKeys :=
  ⟨rfl, 1, List.mem_cons_of_mem _ List.mem_cons_self⟩

theorem raised_naming :
    (naming.perform (Call.limit .indexKeys).step.action).1 = .error (.missingKey (.int 0)) := rfl

theorem perform_limit_iff_naming :
    ¬ Foreseen .indexKeys (.mapping [(.text "setting", .int 32)])
        (naming.perform (Call.limit .indexKeys).step.action).1 ∧
      (Call.limit .indexKeys).stored
        (naming.perform (Call.limit .indexKeys).step.action).2.memo = none := by
  have limit := perform_limit_iff .indexKeys (Prod.eta (naming.perform _)).symm
  refine ⟨fun foreseen => ?_, (limit.2 _ raised_naming).1⟩
  rcases (limit.1 answered_naming).mp foreseen with empty | ⟨e, found, -⟩
  · cases empty
  · cases found

/-- A row that names its columns is not read, although its first value is a number. -/
theorem limit_not_always_foreseen :
    ¬ ∀ (c : Constant) (s t : State) (outcome : Except Fault Reply),
      s.perform (Call.limit c).step.action = (outcome, t) → t.Answered c →
        Foreseen c (t.server.constantRow c) outcome := by
  intro always
  have foreseen := always .indexKeys naming _ _ (Prod.eta _).symm answered_naming
  rw [raised_naming] at foreseen
  cases foreseen

end Session

end SystemCatalog
