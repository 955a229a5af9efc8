import SystemCatalog.Proofs.Acl.Letters
import SystemCatalog.Proofs.Session.Readings
import SystemCatalog.Proofs.Version.Handshake

/-!
# Default privileges of a session

An absent access list stands for the default privileges of the server's version.  The number that
the server gives in its handshake decides which these are: `decodeGrants_byNumber`.
-/

namespace SystemCatalog.Session

open Acl (Grants)
open Journal (Level)
open Session.Action

variable {s t : State} {f : Fault} {n : Int} {v : Version} {owner privileges : String}

/-- Whether a session has the number of its server: it holds a live connection on which the server
tells it, and has kept no other version from that connection. -/
structure State.Hears (s : State) (n : Int) : Prop where
  driver : ∃ driver, s.access = .driver driver
  link : ∃ link, s.link = some link ∧ link.dropped = false ∧ link.silent = false
  number : s.server.handshake = .number (.int n)
  memory : s.memo.generation = s.generation → ∀ v ∈ s.memo.server, v = .ofHandshake n

namespace State.Hears

theorem read (hears : s.Hears n) : s.server.handshake.read = .ok (.ofHandshake n) := by
  rw [hears.number]
  rfl

theorem checked (hears : s.Hears n) : ∀ v ∈ s.checked.memo.server, v = .ofHandshake n := by
  rcases checked_cases s with ⟨same, eq⟩ | ⟨-, eq⟩
  · rw [eq]
    exact hears.memory same.symm
  · rw [eq]
    rintro v ⟨⟩

theorem serverVersion_ok (hears : s.Hears n) :
    ∃ t, serverVersion s = .ok (.ofHandshake n) t := by
  obtain ⟨driver, access⟩ := hears.driver
  obtain ⟨link, holds, live, audible⟩ := hears.link
  cases result : serverVersion s with
  | ok v t =>
    refine ⟨t, ?_⟩
    rcases remembered_ok result with ⟨records, known, -⟩ | ⟨records, u, -, computed, -⟩
    · rw [hears.checked v known]
    · obtain ⟨read, -⟩ := handshake_ok (by simpa using access) computed
      rw [State.server_noted, server_checked, hears.read] at read
      rw [Except.ok.inj read]
  | error f t =>
    obtain ⟨records, -, failed⟩ := remembered_error result
    have read := @handshake_of_live (s.checked.noted [] records) link driver (.ofHandshake n)
      (by simpa using access) (by simpa using holds) live audible (by simpa using hears.read)
    rw [read] at failed
    cases failed

end State.Hears

/-! ### Decoding without an access list -/

theorem forM_report_error {α : Type} {logger : String} {level : Level} {message : α → String}
    (l : List α) (h : (l.forM fun a => report logger level (message a)) s = .error f t) :
    False := by
  induction l generalizing s with
  | nil => cases h
  | cons a l ih =>
    rcases bind_error h with failed | ⟨_, _, -, h⟩
    · exact report_error failed
    · exact ih h

theorem defaultPrivileges_ok (told : serverVersion s = .ok v t)
    (selected : Catalog.Strategy.defaultPrivileges.select v = .ok privileges) :
    defaultPrivileges none s = .ok privileges t := by
  show (serverVersion >>= fun v => ofExcept (Catalog.Strategy.defaultPrivileges.select v)) s = _
  rw [bind_of_ok told, selected]
  rfl

theorem defaultPrivileges_error (told : serverVersion s = .ok v t)
    (unselected : Catalog.Strategy.defaultPrivileges.select v = .error f) :
    defaultPrivileges none s = .error f t := by
  show (serverVersion >>= fun v => ofExcept (Catalog.Strategy.defaultPrivileges.select v)) s = _
  rw [bind_of_ok told, unselected]
  rfl

theorem decodeGrants_ok (selected : defaultPrivileges none s = .ok privileges t) :
    ∃ u, decodeGrants none owner s = .ok (Grants.decode none owner privileges) u := by
  cases result : decodeGrants none owner s with
  | ok grants u =>
    refine ⟨u, ?_⟩
    unfold decodeGrants at result
    rw [bind_of_ok selected] at result
    obtain ⟨_, _, -, returned⟩ := bind_ok result
    rw [(pure_ok returned).1]
  | error f u =>
    unfold decodeGrants at result
    rw [bind_of_ok selected] at result
    rcases bind_error result with failed | ⟨_, _, -, returned⟩
    · exact (forM_report_error _ failed).elim
    · cases returned

theorem decodeGrants_error (unselected : defaultPrivileges none s = .error f t) :
    decodeGrants none owner s = .error f t :=
  bind_of_error unselected

theorem decode_truncate_ne (owner : String) :
    Grants.decode none owner "arwdDxt" ≠ Grants.decode none owner "arwdxt" := by
  intro same
  have letters := @Grants.count_eq_of_decode_none 'D' owner _ _ same (by decide)
  exact absurd letters (by decide)

theorem perform_decodeGrants (hears : s.Hears n) (owner : String) :
    (s.perform (Step.decodeGrants none owner).action).1 =
      if 0 ≤ n then .ok (.grants (.decode none owner (if 80400 ≤ n then "arwdDxt" else "arwdxt")))
      else .error (.belowBrackets (Version.ofHandshake n).text "default ACL privileges") := by
  have cleared : s.cleared.Hears n := ⟨hears.driver, hears.link, hears.number, hears.memory⟩
  obtain ⟨t, told⟩ := cleared.serverVersion_ok
  have selects := Catalog.Strategy.defaultPrivileges_ofHandshake n
  by_cases named : 0 ≤ n
  · rw [if_pos named] at selects ⊢
    obtain ⟨u, decoded⟩ := @decodeGrants_ok _ _ owner _ (defaultPrivileges_ok told selects)
    have performed : s.perform (Step.decodeGrants none owner).action = _ :=
      State.perform_of_ok (bind_of_ok decoded)
    rw [performed]
  · rw [if_neg named] at selects ⊢
    have failed := @decodeGrants_error _ _ _ owner (defaultPrivileges_error told selects)
    have performed : s.perform (Step.decodeGrants none owner).action = _ :=
      State.perform_of_error (bind_of_error failed)
    rw [performed]
    rfl

/-- Versions in handshakes are ordered as their numbers.  So an owner has the privileges of later
servers by default from the number 80400 on, those of earlier ones from zero up to it, and below
zero the privileges cannot be told.  As in every `Datum`, numbers are taken to have at most 4300
digits: with a longer one, the message below zero cannot be written. -/
theorem decodeGrants_byNumber :
    (∀ m n : Int, (Version.ofHandshake m).before (.ofHandshake n) = .ok (decide (m < n))) ∧
    ∀ {s t : State} {n : Int} (owner : String) {outcome : Except Fault Reply}, s.Hears n →
      s.perform (Step.decodeGrants none owner).action = (outcome, t) →
      (outcome = .ok (.grants (.decode none owner "arwdDxt")) ↔ 80400 ≤ n) ∧
      (outcome = .ok (.grants (.decode none owner "arwdxt")) ↔ 0 ≤ n ∧ n < 80400) ∧
      ((∃ f, outcome = .error f ∧ f.family = .unavailable) ↔ n < 0) := by
  refine ⟨Version.before_ofHandshake, fun {s t n} owner outcome hears performed => ?_⟩
  have differ := decode_truncate_ne owner
  have read := perform_decodeGrants hears owner
  rw [performed] at read
  dsimp only at read
  by_cases named : 0 ≤ n
  · rw [if_pos named] at read
    by_cases late : 80400 ≤ n
    · rw [if_pos late] at read
      subst read
      refine ⟨iff_of_true rfl late, iff_of_false ?_ (by omega), iff_of_false ?_ (by omega)⟩
      · simpa using differ
      · simp
    · rw [if_neg late] at read
      subst read
      refine ⟨iff_of_false ?_ late, iff_of_true rfl (by omega), iff_of_false ?_ (by omega)⟩
      · simpa using differ.symm
      · simp
  · rw [if_neg named] at read
    subst read
    refine ⟨iff_of_false ?_ (by omega), iff_of_false ?_ (by omega), iff_of_true ?_ (by omega)⟩
    · simp
    · simp
    · exact ⟨_, rfl, rfl⟩

theorem hears_linked (n : Int) : (State.linked { handshake := .number (.int n) }).Hears n where
  driver := ⟨_, rfl⟩
  link := ⟨_, rfl, rfl, rfl⟩
  number := rfl
  memory := by rintro - v ⟨⟩

/-- The numbers right below the threshold and on it, and one below zero. -/
theorem decodeGrants_byNumber_threshold :
    ((State.linked { handshake := .number (.int 80399) }).perform
        (Step.decodeGrants none "a,b").action).1 =
      .ok (.grants (.decode none "a,b" "arwdxt")) ∧
    ((State.linked { handshake := .number (.int 80400) }).perform
        (Step.decodeGrants none "a,b").action).1 =
      .ok (.grants (.decode none "a,b" "arwdDxt")) ∧
    ∃ f, ((State.linked { handshake := .number (.int (-1)) }).perform
        (Step.decodeGrants none "a,b").action).1 = .error f ∧ f.family = .unavailable := by
  have below := decodeGrants_byNumber.2 "a,b" (hears_linked 80399) Prod.mk.eta.symm
  have above := decodeGrants_byNumber.2 "a,b" (hears_linked 80400) Prod.mk.eta.symm
  have negative := decodeGrants_byNumber.2 "a,b" (hears_linked (-1)) Prod.mk.eta.symm
  exact ⟨below.2.1.mpr (by decide), above.1.mpr (by decide), negative.2.2.mpr (by decide)⟩

end SystemCatalog.Session
