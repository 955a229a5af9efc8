import SystemCatalog.Session.Reading

/-!
# Computations on sessions

A computation is taken apart bind by bind, and an invariant that each part keeps is kept by the
whole, whether it fails or not.
-/

namespace SystemCatalog.Session

open Journal (Record Level)

variable {α β : Type} {s t : State} {f : Fault}

theorem bind_ok {a : Action α} {b : α → Action β} {y : β} (h : (a >>= b) s = .ok y t) :
    ∃ x u, a s = .ok x u ∧ b x u = .ok y t := by
  simp only [bind, EStateM.bind] at h
  cases first : a s with
  | ok x u =>
    rw [first] at h
    exact ⟨x, u, rfl, h⟩
  | error e u =>
    rw [first] at h
    cases h

theorem bind_error {a : Action α} {b : α → Action β} (h : (a >>= b) s = .error f t) :
    a s = .error f t ∨ ∃ x u, a s = .ok x u ∧ b x u = .error f t := by
  simp only [bind, EStateM.bind] at h
  cases first : a s with
  | ok x u =>
    rw [first] at h
    exact Or.inr ⟨x, u, rfl, h⟩
  | error e u =>
    rw [first] at h
    cases h
    exact Or.inl rfl

theorem bind_of_ok {a : Action α} {b : α → Action β} {x : α} (h : a s = .ok x t) :
    (a >>= b) s = b x t := by
  simp only [bind, EStateM.bind, h]

theorem bind_of_error {a : Action α} {b : α → Action β} (h : a s = .error f t) :
    (a >>= b) s = .error f t := by
  simp only [bind, EStateM.bind, h]

theorem pure_ok {x y : α} (h : (pure x : Action α) s = .ok y t) : x = y ∧ s = t := by
  cases h
  exact ⟨rfl, rfl⟩

theorem get_ok {u : State} (h : (get : Action State) s = .ok u t) : s = u ∧ s = t := by
  cases h
  exact ⟨rfl, rfl⟩

theorem ofExcept_ok {x : Except Fault α} {y : α} (h : (ofExcept x : Action α) s = .ok y t) :
    x = .ok y ∧ s = t := by
  cases x with
  | ok x =>
    cases h
    exact ⟨rfl, rfl⟩
  | error e => cases h

theorem ofExcept_error {x : Except Fault α} (h : (ofExcept x : Action α) s = .error f t) :
    x = .error f ∧ s = t := by
  cases x with
  | ok x => cases h
  | error e =>
    cases h
    exact ⟨rfl, rfl⟩

namespace State

def noted (s : State) (events : List Event) (records : List Record) : State :=
  { s with events := s.events ++ events, records := s.records ++ records }

section Noted

variable (s : State) (events : List Event) (records : List Record)

@[simp] theorem server_noted : (s.noted events records).server = s.server := rfl

@[simp] theorem access_noted : (s.noted events records).access = s.access := rfl

@[simp] theorem generation_noted : (s.noted events records).generation = s.generation := rfl

@[simp] theorem quoting_noted : (s.noted events records).quoting = s.quoting := rfl

@[simp] theorem link_noted : (s.noted events records).link = s.link := rfl

@[simp] theorem memo_noted : (s.noted events records).memo = s.memo := rfl

@[simp] theorem events_noted : (s.noted events records).events = s.events ++ events := rfl

@[simp] theorem noted_nil : s.noted [] [] = s := by
  simp [noted]

@[simp] theorem noted_noted (more : List Event) (moreRecords : List Record) :
    (s.noted events records).noted more moreRecords =
      s.noted (events ++ more) (records ++ moreRecords) := by
  simp [noted]

end Noted

end State

namespace Action

theorem emit_ok {e : Event} {x : Unit} (h : emit e s = .ok x t) : t = s.noted [e] [] := by
  cases h
  simp [State.noted]

theorem emit_error {e : Event} (h : emit e s = .error f t) : False := by
  cases h

theorem report_ok {logger message : String} {level : Level} {x : Unit}
    (h : report logger level message s = .ok x t) : ∃ record, t = s.noted [] [record] := by
  cases h
  exact ⟨_, by simp only [State.noted, List.append_nil]; rfl⟩

theorem report_error {logger message : String} {level : Level}
    (h : report logger level message s = .error f t) : False := by
  cases h

theorem noteTimed_eq (logger name sql : String) (parameters : Datum) (failed : Bool) (s : State) :
    ∃ record, noteTimed logger name sql parameters failed s = s.noted [] [record] :=
  ⟨Record.timed logger name s.threshold ⟨some sql, parameters, failed⟩, by
    simp [noteTimed, State.noted]⟩

theorem timed_ok {logger name sql : String} {parameters : Datum} {a : Action α} {x : α}
    (h : timed logger name sql parameters a s = .ok x t) :
    ∃ u record, a s = .ok x u ∧ t = u.noted [] [record] := by
  unfold timed at h
  cases inner : a s with
  | ok y u =>
    rw [inner] at h
    cases h
    obtain ⟨record, eq⟩ := noteTimed_eq logger name sql parameters false u
    exact ⟨u, record, rfl, eq⟩
  | error e u =>
    rw [inner] at h
    cases h

theorem timed_error {logger name sql : String} {parameters : Datum} {a : Action α}
    (h : timed logger name sql parameters a s = .error f t) :
    ∃ u record, a s = .error f u ∧ t = u.noted [] [record] := by
  unfold timed at h
  cases inner : a s with
  | ok y u =>
    rw [inner] at h
    cases h
  | error e u =>
    rw [inner] at h
    cases h
    obtain ⟨record, eq⟩ := noteTimed_eq logger name sql parameters true u
    exact ⟨u, record, rfl, eq⟩

theorem final_ok {a : Action α} {x : α} (h : a s = .ok x t) : a.final s = t := by
  rw [final, h]

theorem final_error {a : Action α} (h : a s = .error f t) : a.final s = t := by
  rw [final, h]

theorem final_bind_ok {a : Action α} {b : α → Action β} {x : α} (h : a s = .ok x t) :
    (a >>= b).final s = (b x).final t := by
  rw [final, bind_of_ok h, final]

theorem final_bind_error {a : Action α} {b : α → Action β} (h : a s = .error f t) :
    (a >>= b).final s = t := by
  rw [final, bind_of_error h]

end Action

open Session.Action

/-- A computation after which an invariant still holds, whether it fails or not. -/
def Keeps (I : State → Prop) (a : Action α) : Prop := ∀ s, I s → I (a.final s)

namespace Keeps

variable {I : State → Prop} {a : Action α} {b : α → Action β}

theorem of_results (ok : ∀ s x t, I s → a s = .ok x t → I t)
    (error : ∀ s f t, I s → a s = .error f t → I t) : Keeps I a := by
  intro s holds
  cases result : a s with
  | ok x t =>
    rw [final_ok result]
    exact ok s x t holds result
  | error f t =>
    rw [final_error result]
    exact error s f t holds result

theorem ok (h : Keeps I a) {x : α} (holds : I s) (result : a s = .ok x t) : I t := by
  have kept := h s holds
  rwa [final_ok result] at kept

theorem error (h : Keeps I a) (holds : I s) (result : a s = .error f t) : I t := by
  have kept := h s holds
  rwa [final_error result] at kept

theorem bind (first : Keeps I a) (second : ∀ x, Keeps I (b x)) : Keeps I (a >>= b) := by
  apply of_results
  · intro s y t holds result
    obtain ⟨x, u, before, after⟩ := bind_ok result
    exact (second x).ok (first.ok holds before) after
  · intro s f t holds result
    rcases bind_error result with before | ⟨x, u, before, after⟩
    · exact first.error holds before
    · exact (second x).error (first.ok holds before) after

theorem pure (x : α) : Keeps I (Pure.pure x : Action α) := fun _ holds => holds

theorem throw (f : Fault) : Keeps I (MonadExcept.throw f : Action α) := fun _ holds => holds

theorem get : Keeps I (MonadState.get : Action State) := fun _ holds => holds

theorem ofExcept (x : Except Fault α) : Keeps I (MonadExcept.ofExcept x : Action α) := by
  cases x with
  | ok x => exact pure x
  | error f => exact throw f

theorem forM {g : α → Action Unit} (each : ∀ x, Keeps I (g x)) (l : List α) :
    Keeps I (l.forM g) := by
  induction l with
  | nil => exact pure ()
  | cons x l ih => exact (each x).bind fun _ => ih

theorem timed {logger name sql : String} {parameters : Datum}
    (noted : ∀ s records, I s → I (s.noted [] records)) (inner : Keeps I a) :
    Keeps I (Action.timed logger name sql parameters a) := by
  apply of_results
  · intro s x t holds result
    obtain ⟨u, record, before, rfl⟩ := timed_ok result
    exact noted u [record] (inner.ok holds before)
  · intro s f t holds result
    obtain ⟨u, record, before, rfl⟩ := timed_error result
    exact noted u [record] (inner.error holds before)

end Keeps

end SystemCatalog.Session
