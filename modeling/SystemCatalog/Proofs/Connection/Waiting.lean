import SystemCatalog.Proofs.Connection.Outcome
import SystemCatalog.Proofs.Number.Floor

/-!
# How long the driver waits

The driver is asked to wait for the whole seconds of a time to wait.  A longer time never gives
fewer of them, but one below a second gives none, and with none the driver waits without an end:
`connect_waits`, `not_always_limited`.
-/

namespace SystemCatalog

namespace Connection.Options

/-- The values of an option; a dictionary of options has at most one. -/
def values (o : Options) (name : String) : List Datum :=
  (o.filter fun e => Datum.same e.1 (.text name)).map (·.2)

theorem values_append (o others : Options) (name : String) :
    (o ++ others).values name = o.values name ++ others.values name := by
  rw [values, List.filter_append, List.map_append]
  rfl

theorem values_of_not_has {o : Options} {name : String} (absent : o.has name = false) :
    o.values name = [] := by
  rw [values, List.filter_eq_nil_iff.mpr (List.any_eq_false.mp absent)]
  rfl

end Connection.Options

namespace Session

/-- The times to wait that the driver is asked for, each time that it is asked for a connection. -/
def waits (events : List Event) : List (List Datum) :=
  events.filterMap fun
    | .connecting _ options => some (Connection.Options.values options "connect_timeout")
    | _ => none

theorem waits_append (events more : List Event) :
    waits (events ++ more) = waits events ++ waits more := List.filterMap_append

end Session

namespace Connection.Config

open Session (State Driver waits connectingEvents)

variable {c d : Config} {o options : Options} {q r : ℚ}

/-- The time to wait is a positive number, and the options say nothing of one. -/
structure Timed (c : Config) (q : ℚ) : Prop where
  unsaid : ∀ o, Options.ofDatum c.options = .ok o → o.has "connect_timeout" = false
  limit : c.timeout.toRat? = some q
  positive : 0 < q

def Askable (c : Config) : Prop :=
  (∃ o, Options.ofDatum c.options = .ok o ∧ Free o) ∧ ∃ text, c.conninfo = .ok text

/-- Connecting asks the driver to wait for that many seconds, if it can be asked at all. -/
def AsksToWait (c : Config) (n : Int) : Prop :=
  ∀ (s : State) (driver : Driver), s.access = .driver driver → driver ≠ .missing →
    (c.Askable → waits ((Session.connect c).final s).events = waits s.events ++ [[.int n]]) ∧
    (¬ c.Askable → waits ((Session.connect c).final s).events = waits s.events)

/-! ### What the driver is asked for -/

theorem free_of_acceptable (taken : Session.acceptable o = true) : Free o := by
  intro e mem
  have own := List.all_eq_true.mp taken e mem
  cases key : e.1 with
  | text name =>
    rw [key, Bool.and_eq_true, bne_iff_ne, bne_iff_ne] at own
    exact ⟨name, rfl, own⟩
  | _ =>
    rw [key] at own
    cases own

theorem label_of_conninfo {text : String} (written : c.conninfo = .ok text) :
    ∃ label, c.label = .ok label := by
  rw [conninfo] at written
  rw [label, redacted]
  cases target : c.target with
  | unknown => exact ⟨_, rfl⟩
  | address a => exact ⟨_, rfl⟩
  | other d =>
    rw [target, Target.write] at written
    rw [Target.write]
    cases counts : d.truthy with
    | true =>
      rw [counts] at written
      cases written
    | false => exact ⟨_, rfl⟩

section Timed

variable (timed : c.Timed q)

include timed

theorem driverOptions_timed (held : Options.ofDatum c.options = .ok o) :
    c.driverOptions = .ok (c.passed o) :=
  driverOptions_of_whole held fun _ _ => ⟨_, Datum.whole_of_pos timed.limit timed.positive⟩

theorem waiting_timed (held : Options.ofDatum c.options = .ok o) :
    c.waiting o = [(.text waitOption, .int ⌊q⌋)] := by
  have unsaid : o.has waitOption = false := timed.unsaid o held
  rw [waiting, Datum.truthy_of_pos timed.limit timed.positive, unsaid,
    Datum.whole_of_pos timed.limit timed.positive]
  rfl

theorem values_passed (held : Options.ofDatum c.options = .ok o) :
    Options.values (c.passed o) "connect_timeout" = [.int ⌊q⌋] := by
  have own : Options.values o "connect_timeout" = [] :=
    Options.values_of_not_has (timed.unsaid o held)
  have encrypted : Options.values (c.encryption o) "connect_timeout" = [] :=
    Options.values_of_not_has (has_encryption (by decide))
  rw [passed, Options.values_append, Options.values_append, own, encrypted,
    waiting_timed timed held]
  rfl

theorem waits_connecting (askable : c.Askable) : waits (connectingEvents c) = [[.int ⌊q⌋]] := by
  obtain ⟨⟨o, held, free⟩, text, written⟩ := askable
  obtain ⟨label, labelled⟩ := label_of_conninfo written
  have taken := acceptable_of_free (@free_passed c o free)
  rw [connectingEvents, driverOptions_timed timed held, labelled, written]
  dsimp only
  rw [if_pos taken]
  have other : Options.values [(.text "autocommit", c.autocommit)] "connect_timeout" = [] :=
    Options.values_of_not_has (Options.has_singleton ("autocommit", c.autocommit) _)
  have arguments := Options.values_append [(.text "autocommit", c.autocommit)] (c.passed o)
    "connect_timeout"
  rw [other, values_passed timed held] at arguments
  exact congrArg (fun values => [values]) arguments

theorem connectingEvents_of_not_askable (other : ¬ c.Askable) : connectingEvents c = [] := by
  cases held : Options.ofDatum c.options with
  | error f =>
    have untaken : c.driverOptions = .error f := by
      rw [driverOptions, held]
      rfl
    rw [connectingEvents, untaken]
  | ok o =>
    rw [connectingEvents, driverOptions_timed timed held]
    cases c.label with
    | error f => rfl
    | ok label =>
      cases written : c.conninfo with
      | error f => rfl
      | ok text =>
        -- The driver gets the options of the settings among others, so it refuses them for these.
        have refused : ¬ Session.acceptable (c.passed o) = true := by
          intro taken
          have free : Free o := fun e mem => free_of_acceptable taken e (by
            rw [passed, List.append_assoc]
            exact List.mem_append_left _ mem)
          exact other ⟨⟨o, held, free⟩, text, written⟩
        dsimp only
        rw [if_neg refused]

theorem asksToWait_timed : c.AsksToWait ⌊q⌋ := by
  intro s driver reached there
  rw [Session.events_connect reached there, Session.waits_append]
  refine ⟨fun askable => ?_, fun other => ?_⟩
  · rw [waits_connecting timed askable]
  · rw [connectingEvents_of_not_askable timed other]
    exact List.append_nil _

theorem eq_floor_of_asksToWait {n : Int} (askable : c.Askable) (asks : c.AsksToWait n) :
    n = ⌊q⌋ := by
  have asked := (asks .fresh .complete rfl (by decide)).1 askable
  have known := (asksToWait_timed timed .fresh .complete rfl (by decide)).1 askable
  rw [known] at asked
  simpa using asked.symm

end Timed

/-- With a positive time to wait and none in the options, the driver is asked for the whole seconds
of the time and for no other: for at least one if and only if the time is a second or longer, and
never for fewer when the time is longer. -/
theorem connect_waits (timed : c.Timed q) :
    c.AsksToWait ⌊q⌋ ∧ (1 ≤ ⌊q⌋ ↔ 1 ≤ q) ∧
      ∀ (d : Config) (r : ℚ), d.Timed r → q ≤ r → d.AsksToWait ⌊r⌋ ∧ ⌊q⌋ ≤ ⌊r⌋ := by
  refine ⟨asksToWait_timed timed, ?_, ?_⟩
  · rw [Int.le_floor, Int.cast_one]
  · intro d r longer more
    exact ⟨asksToWait_timed longer, Int.floor_le_floor more⟩

/-! ### Times in addresses -/

section Alone

variable {address : Address} {text value : String} {x : Number.Binary64}

theorem timed_alone (held : address.query.lookup "timeout" = some value)
    (read : Number.Binary64.read? value.toList = some x) (limit : x.toRat? = some q)
    (positive : 0 < q) (absent : address.query.lookup "connect_timeout" = none) :
    (alone text address).Timed q where
  unsaid := by
    intro o given
    obtain rfl := Except.ok.inj ((options_alone text address).symm.trans given)
    rw [has_driverShare (by decide), absent]
    rfl
  limit := by
    rw [timeout_alone held read]
    exact limit
  positive := positive

theorem askable_alone (free : Free (driverShare address.query)) : (alone text address).Askable :=
  ⟨⟨_, options_alone text address, free⟩, address.conninfo, rfl⟩

end Alone

def timedAddress (value : String) : Address := { endlessAddress with query := [("timeout", value)] }

theorem fine_timedAddress {value : String} {x : Number.Binary64}
    (read : Number.Binary64.read? value.toList = some x) : ¬ Misread (timedAddress value).query :=
  @fine_of_read _ value x 0 rfl rfl read fun _ held => nomatch held

theorem free_nil : Free [] := fun _ mem => nomatch mem

theorem askable_timedAddress (text value : String) : (alone text (timedAddress value)).Askable :=
  askable_alone free_nil

/-- Two and a half seconds in an address, and seven that the caller sets in their place. -/
theorem connect_waits_replaced : ∃ c d,
    ofText "crate://u@h?timeout=2.5" {} = .ok c ∧
    ofText "crate://u@h?timeout=2.5" { timeout := some (.int 7), names := ["timeout"] } = .ok d ∧
    c.Timed (5 / 2) ∧ d.Timed 7 ∧
    waits ((Session.connect c).final .fresh).events = [[.int 2]] ∧
    waits ((Session.connect d).final .fresh).events = [[.int 7]] := by
  have read : Number.Binary64.read? "2.5".toList =
      some (.finite false 5629499534213120 (-51)) := by rfl
  have limit : Number.Binary64.toRat? (.finite false 5629499534213120 (-51)) = some (5 / 2) := by
    norm_num [Number.Binary64.toRat?]
  have address : Address.ofText "crate://u@h?timeout=2.5" = .ok (timedAddress "2.5") := by rfl
  have fine := fine_timedAddress read
  have timed := @timed_alone _ (timedAddress "2.5") "crate://u@h?timeout=2.5" _ _ rfl read limit
    (by norm_num) rfl
  have replaced : (settled "crate://u@h?timeout=2.5" (timedAddress "2.5")
      { timeout := some (.int 7), names := ["timeout"] } []).Timed 7 :=
    ⟨fun o held => by cases held; rfl, by norm_num [settled, Datum.toRat?], by norm_num⟩
  have first : waits State.fresh.events = [] := rfl
  obtain ⟨asks, -, longer⟩ := connect_waits timed
  obtain ⟨more, -⟩ := longer _ _ replaced (by norm_num)
  refine ⟨_, _, ofText_alone address fine, ofText_of_fine (by decide) address fine rfl
    List.Pairwise.nil, timed, replaced, ?_, ?_⟩
  · rw [(asks .fresh .complete rfl (by decide)).1 (askable_timedAddress _ _), first]
    norm_num
  · rw [(more .fresh .complete rfl (by decide)).1 ⟨⟨[], rfl, free_nil⟩, _, rfl⟩, first]
    norm_num

/-- The driver waits without an end although the address sets a limit of half a second. -/
theorem not_always_limited : ¬ ∀ (text : String) (c : Config) (q : ℚ),
    ofText text {} = .ok c → c.Timed q → c.Askable → ∃ n, 1 ≤ n ∧ c.AsksToWait n := by
  intro always
  have read : Number.Binary64.read? "0.5".toList =
      some (.finite false 4503599627370496 (-53)) := by rfl
  have limit : Number.Binary64.toRat? (.finite false 4503599627370496 (-53)) = some (1 / 2) := by
    norm_num [Number.Binary64.toRat?]
  have settles := @ofText_alone (timedAddress "0.5") "crate://u@h?timeout=0.5" (by rfl)
    (fine_timedAddress read)
  have timed := @timed_alone _ (timedAddress "0.5") "crate://u@h?timeout=0.5" _ _ rfl read limit
    (by norm_num) rfl
  have askable := askable_timedAddress "crate://u@h?timeout=0.5" "0.5"
  obtain ⟨n, positive, asks⟩ := always _ _ _ settles timed askable
  have seconds := eq_floor_of_asksToWait timed askable asks
  norm_num at seconds
  omega

end Connection.Config

end SystemCatalog
