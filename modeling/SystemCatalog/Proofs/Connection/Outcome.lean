import SystemCatalog.Proofs.Connection.Shares
import SystemCatalog.Proofs.Session.Wire

/-!
# How connecting ends

An address is refused with a fault of the configuration.  Connecting with the settings of one that
is not either gives a connection, or fails with a fault of the configuration or of the connection
and leaves the session as it was, unless the time to wait is no whole number of seconds:
`connect_ofText`.
-/

namespace SystemCatalog

namespace Session

open Connection (Config Options)
open Journal (Level)
open Session.Action

variable {s : State} {c : Config} {options : Options} {f : Fault}

/-! ### Opening connections -/

theorem openLink_of_untaken (untaken : c.driverOptions = .error f) (s : State) :
    openLink c s = .error f s := by
  rw [openLink, bind_of_error (ofExcept_fail untaken s)]

/-- Once the driver's options are known, opening ends with a connection or with the one fault for
all that the driver refuses. -/
theorem openLink_of_taken {label conninfo : String} (taken : c.driverOptions = .ok options)
    (labelled : c.label = .ok label) (written : c.conninfo = .ok conninfo) (s : State) :
    ∃ t, openLink c s =
      if acceptable options = true ∧ s.server.refusing = false then .ok (s.nextLink c) t
      else .error .connectFailed t := by
  rw [openLink, bind_of_ok (ofExcept_run taken s), bind_of_ok (ofExcept_run labelled s),
    bind_of_ok (report_run _ _ _ s)]
  cases accepted : acceptable options with
  | false => exact ⟨_, rfl⟩
  | true =>
    rw [if_neg (by decide)]
    dsimp only
    rw [bind_of_ok (ofExcept_run written _), bind_of_ok (emit_run _ _), State.noted_noted,
      bind_of_ok (get_run _), State.server_noted]
    cases s.server.refusing with
    | true => exact ⟨_, rfl⟩
    | false => exact ⟨_, rfl⟩

theorem connect_of_there {driver : Driver} (reached : s.access = .driver driver)
    (there : driver ≠ .missing) (c : Config) : connect c s = openLink c s := by
  rw [connect, bind_of_ok (get_run s), reached]
  cases driver with
  | missing => exact absurd rfl there
  | complete => rfl
  | withoutErrors => rfl

theorem connect_of_missing (reached : s.access = .driver .missing) (c : Config) :
    connect c s = .error .driverMissing s := by
  rw [connect, bind_of_ok (get_run s), reached]
  rfl

theorem same_of_connect_error {t : State} (failed : connect c s = .error f t) : s.Same t := by
  rcases connect_error failed with ⟨records, rfl⟩ | ⟨-, conninfo, options, records, rfl⟩
  · rfl
  · rfl

end Session

namespace Connection.Config

variable {address : Address} {query : List (String × String)} {text : String}

/-! ### The time to wait -/

/-- The time to wait in a query is infinite or no number, and nothing else says how long the driver
is to wait. -/
def Boundless (query : List (String × String)) : Prop :=
  query.lookup "connect_timeout" = none ∧ ∃ value x, query.lookup "timeout" = some value ∧
    Number.Binary64.read? value.toList = some x ∧ (x = .nan ∨ ∃ negative, x = .infinite negative)

theorem lookup_isSome_iff {name : String} :
    (query.lookup name).isSome = true ↔ ∃ value, (name, value) ∈ query := by
  constructor
  · intro some
    obtain ⟨value, held⟩ := Option.isSome_iff_exists.mp some
    exact ⟨value, mem_of_lookup held⟩
  · rintro ⟨value, mem⟩
    rw [Option.isSome_iff_ne_none]
    intro none
    have other := List.lookup_eq_none_iff.mp none _ mem
    simp at other

theorem has_driverShare {name : String} (passed : name ∉ ownOptions) :
    (driverShare query).has name = (query.lookup name).isSome := by
  rw [Bool.eq_iff_iff, lookup_isSome_iff, Options.has, List.any_eq_true]
  constructor
  · rintro ⟨e, mem, same⟩
    obtain ⟨option, held, rfl⟩ := List.mem_map.mp mem
    rw [Options.same_text, beq_iff_eq] at same
    exact ⟨option.2, same ▸ (List.mem_filter.mp held).1⟩
  · rintro ⟨value, mem⟩
    refine ⟨(.text name, driverValue name value), ?_, ?_⟩
    · refine List.mem_map.mpr ⟨(name, value), List.mem_filter.mpr ⟨mem, ?_⟩, rfl⟩
      rw [Bool.not_eq_true', Bool.eq_false_iff, Ne, List.contains_iff_mem]
      exact passed
    · rw [Options.same_text, beq_iff_eq]

/-- What an address alone settles. -/
def alone (text : String) (address : Address) : Config := settled text address {} []

theorem options_alone (text : String) (address : Address) :
    Options.ofDatum (alone text address).options = .ok (driverShare address.query) := by
  have held : (alone text address).options = (driverShare address.query).toDatum :=
    congrArg Options.toDatum (Options.override_nil _)
  rw [held, Options.ofDatum_toDatum]

theorem timeout_alone {value : String} {x : Number.Binary64}
    (held : address.query.lookup "timeout" = some value)
    (read : Number.Binary64.read? value.toList = some x) :
    (alone text address).timeout = .float x := by
  change (((address.query.lookup "timeout").bind fun value =>
    (Number.Binary64.read? value.toList).map Datum.float).getD .null) = _
  rw [held, Option.bind_some, read]
  rfl

theorem driverOptions_boundless (boundless : Boundless address.query) :
    ∃ f, (alone text address).driverOptions = .error f ∧ f.family ≠ .configuration ∧
      f.family ≠ .connection := by
  obtain ⟨absent, value, x, held, read, unlimited⟩ := boundless
  have timeout := @timeout_alone address text value x held read
  have unsaid : (driverShare address.query).has waitOption = false := by
    rw [has_driverShare (by decide), waitOption, absent]
    rfl
  rw [driverOptions_held (options_alone text address), unsaid, timeout]
  rcases unlimited with rfl | ⟨negative, rfl⟩
  · exact ⟨.wholeOfNan, rfl, by decide, by decide⟩
  · exact ⟨.wholeOfInfinity, rfl, by decide, by decide⟩

theorem whole_alone (fine : ¬ Misread address.query) (bounded : ¬ Boundless address.query) :
    (alone text address).Whole (driverShare address.query) := by
  intro truthy absent
  cases held : address.query.lookup "timeout" with
  | none =>
    have timeout : (alone text address).timeout = .null := by
      change (((address.query.lookup "timeout").bind _).getD _) = _
      rw [held]
      rfl
    rw [timeout] at truthy
    cases truthy
  | some value =>
    cases read : Number.Binary64.read? value.toList with
    | none => exact absurd (.timeout value held read) fine
    | some x =>
      rw [timeout_alone held read]
      rw [has_driverShare (by decide), Option.isSome_eq_false_iff, Option.isNone_iff_eq_none]
        at absent
      cases x with
      | nan => exact absurd ⟨absent, value, _, held, read, Or.inl rfl⟩ bounded
      | infinite negative =>
        exact absurd ⟨absent, value, _, held, read, Or.inr ⟨negative, rfl⟩⟩ bounded
      | finite negative m e => exact ⟨_, rfl⟩

/-! ### What the driver takes -/

theorem acceptable_alone : Session.acceptable ((alone text address).passed
    (driverShare address.query)) = true ↔ address.query.lookup "conninfo" = none := by
  constructor
  · intro taken
    rw [passed, Session.acceptable, List.all_append, List.all_append, Bool.and_eq_true,
      Bool.and_eq_true] at taken
    cases held : address.query.lookup "conninfo" with
    | none => rfl
    | some value =>
      have sent : (.text "conninfo", driverValue "conninfo" value) ∈ driverShare address.query :=
        List.mem_map.mpr ⟨_, List.mem_filter.mpr ⟨mem_of_lookup held, rfl⟩, rfl⟩
      cases List.all_eq_true.mp taken.1.1 _ sent
  · intro absent
    apply acceptable_of_free
    apply free_passed
    intro e mem
    obtain ⟨option, held, rfl⟩ := List.mem_map.mp mem
    obtain ⟨inside, kept⟩ := List.mem_filter.mp held
    refine ⟨option.1, rfl, ?_, ?_⟩
    · intro own
      rw [own] at kept
      cases kept
    · intro other
      have unlike := List.lookup_eq_none_iff.mp absent option inside
      rw [other] at unlike
      simp at unlike

/-! ### Connecting -/

open Session (State Driver)

variable {s : State} {driver : Driver}

theorem ofText_alone (read : Address.ofText text = .ok address) (fine : ¬ Misread address.query) :
    ofText text {} = .ok (alone text address) :=
  @ofText_of_fine {} address [] text (by decide) read fine rfl List.Pairwise.nil

theorem connect_boundless (reached : s.access = .driver driver) (there : driver ≠ .missing)
    (boundless : Boundless address.query) :
    ∃ f, Session.connect (alone text address) s = .error f s ∧ f.family ≠ .configuration ∧
      f.family ≠ .connection := by
  obtain ⟨f, untaken, kinds⟩ := @driverOptions_boundless address text boundless
  refine ⟨f, ?_, kinds⟩
  rw [Session.connect_of_there reached there, Session.openLink_of_untaken untaken]

theorem connect_bounded (reached : s.access = .driver driver) (there : driver ≠ .missing)
    (fine : ¬ Misread address.query) (bounded : ¬ Boundless address.query) :
    ∃ t, Session.connect (alone text address) s =
      if address.query.lookup "conninfo" = none ∧ s.server.refusing = false then
        .ok (s.nextLink (alone text address)) t
      else .error .connectFailed t := by
  have taken := driverOptions_of_whole (options_alone text address) (whole_alone fine bounded)
  have labelled := @label_of_address address (alone text address) rfl
  obtain ⟨t, ended⟩ := Session.openLink_of_taken taken labelled rfl s
  refine ⟨t, ?_⟩
  rw [Session.connect_of_there reached there, ended]
  simp only [acceptable_alone]

/-- When connecting with the settings of an address gives a connection, and what a failure is. -/
structure Outcome (query : List (String × String)) (c : Config) (s : State) (driver : Driver) :
    Prop where
  connects : (∃ link t, Session.connect c s = .ok link t) ↔
    driver ≠ .missing ∧ ¬ Boundless query ∧ query.lookup "conninfo" = none ∧
      s.server.refusing = false
  keeps : ∀ f t, Session.connect c s = .error f t → s.Same t
  foreseen : ∀ f t, Session.connect c s = .error f t →
    ((f.family = .configuration ∨ f.family = .connection) ↔
      ¬ (driver ≠ .missing ∧ Boundless query))

theorem not_connects {c : Config} {f : Fault} {t : State}
    (failed : Session.connect c s = .error f t) : ¬ ∃ link u, Session.connect c s = .ok link u := by
  rintro ⟨link, u, connected⟩
  rw [failed] at connected
  cases connected

theorem outcome_missing (reached : s.access = .driver .missing) (c : Config) :
    Outcome query c s .missing := by
  have ended := Session.connect_of_missing reached c
  refine ⟨?_, fun f t failed => Session.same_of_connect_error failed, ?_⟩
  · exact ⟨fun connected => absurd connected (not_connects ended), fun h => absurd rfl h.1⟩
  · intro f t failed
    rw [ended] at failed
    cases failed
    exact ⟨fun _ h => h.1 rfl, fun _ => Or.inl rfl⟩

theorem outcome_boundless (reached : s.access = .driver driver) (there : driver ≠ .missing)
    (boundless : Boundless address.query) :
    Outcome address.query (alone text address) s driver := by
  obtain ⟨f, ended, other⟩ := @connect_boundless address text s driver reached there boundless
  refine ⟨?_, fun f t failed => Session.same_of_connect_error failed, ?_⟩
  · exact ⟨fun connected => absurd connected (not_connects ended),
      fun h => absurd boundless h.2.1⟩
  · intro f t failed
    rw [ended] at failed
    cases failed
    exact ⟨fun kinds => absurd kinds (not_or.mpr other), fun h => absurd ⟨there, boundless⟩ h⟩

theorem outcome_bounded (reached : s.access = .driver driver) (there : driver ≠ .missing)
    (fine : ¬ Misread address.query) (bounded : ¬ Boundless address.query) :
    Outcome address.query (alone text address) s driver := by
  obtain ⟨t, ended⟩ := @connect_bounded address text s driver reached there fine bounded
  by_cases taken : address.query.lookup "conninfo" = none ∧ s.server.refusing = false
  · rw [if_pos taken] at ended
    refine ⟨⟨fun _ => ⟨there, bounded, taken⟩, fun _ => ⟨_, _, ended⟩⟩, ?_, ?_⟩
    · intro f u failed
      exact absurd ⟨_, _, ended⟩ (not_connects failed)
    · intro f u failed
      exact absurd ⟨_, _, ended⟩ (not_connects failed)
  · rw [if_neg taken] at ended
    refine ⟨?_, fun f u failed => Session.same_of_connect_error failed, ?_⟩
    · exact ⟨fun connected => absurd connected (not_connects ended), fun h => absurd h.2.2 taken⟩
    · intro f u failed
      rw [ended] at failed
      cases failed
      exact ⟨fun _ h => bounded h.2, fun _ => Or.inr rfl⟩

theorem outcome_alone (reached : s.access = .driver driver) (fine : ¬ Misread address.query) :
    Outcome address.query (alone text address) s driver := by
  by_cases missing : driver = .missing
  · rw [missing] at reached ⊢
    exact outcome_missing reached _
  by_cases boundless : Boundless address.query
  · exact outcome_boundless reached missing boundless
  · exact outcome_bounded reached missing fine boundless

/-- An address is refused with a fault of the configuration, or its settings are known.  Connecting
with them gives a connection where there is a driver that takes the options and a server that does
not refuse.  It fails with a fault of the configuration or of the connection in all other cases but
one, a time to wait that is no whole number of seconds, and leaves the session as it was in each. -/
theorem connect_ofText (text : String) :
    (∃ f, ofText text {} = .error f ∧ f.family = .configuration) ∨
      ∃ a c, Address.ofText text = .ok a ∧ ofText text {} = .ok c ∧
        ∀ s driver, s.access = .driver driver → Outcome a.query c s driver := by
  cases read : Address.ofText text with
  | error f => exact Or.inl ⟨_, @ofText_of_error {} f text (by decide) read, rfl⟩
  | ok a =>
    by_cases bad : Misread a.query
    · left
      rw [@ofText_of_ok {} a text (by decide) read]
      exact ofAddress_of_misread bad
    · exact Or.inr ⟨a, _, rfl, ofText_alone read bad, fun s driver reached =>
        outcome_alone reached bad⟩

def endless : String := "crate://u@h?timeout=inf"

def endlessAddress : Address where
  scheme := "crate"
  username := some "u"
  host := some "h"
  query := [("timeout", "inf")]

theorem read_endless : Address.ofText endless = .ok endlessAddress := by rfl

theorem fine_of_read {options : List (String × String)} {value : String} {x : Number.Binary64}
    {n : Int} (unsaid : options.lookup "autocommit" = none)
    (held : options.lookup "timeout" = some value)
    (read : Number.Binary64.read? value.toList = some x)
    (waits : ∀ value, options.lookup "connect_timeout" = some value →
      Number.readInteger value.toList = .ok n) : ¬ Misread options := by
  rintro (⟨value, given, other⟩ | ⟨value, given, other⟩ | ⟨value, given, other⟩)
  · rw [unsaid] at given
    cases given
  · rw [held] at given
    cases given
    rw [read] at other
    cases other
  · exact other n (waits value given)

theorem fine_of_infinite {options : List (String × String)} {n : Int}
    (unsaid : options.lookup "autocommit" = none) (held : options.lookup "timeout" = some "inf")
    (waits : ∀ value, options.lookup "connect_timeout" = some value →
      Number.readInteger value.toList = .ok n) : ¬ Misread options :=
  fine_of_read unsaid held rfl waits

/-- The driver gets its own time to wait from the address, and the infinite one is not read. -/
theorem connect_ofText_waiting : ∃ c link t,
    ofText "crate://u@h?timeout=inf&connect_timeout=3" {} = .ok c ∧
      Session.connect c .fresh = .ok link t := by
  let address := { endlessAddress with query := [("timeout", "inf"), ("connect_timeout", "3")] }
  have read : Address.ofText "crate://u@h?timeout=inf&connect_timeout=3" = .ok address := by rfl
  have fine : ¬ Misread address.query := by
    apply @fine_of_infinite _ 3 rfl rfl
    rintro value held
    cases held
    rfl
  have ends := connect_ofText "crate://u@h?timeout=inf&connect_timeout=3"
  rcases ends with ⟨f, failed, -⟩ | ⟨a, c, known, settles, outcome⟩
  · rw [ofText_alone read fine] at failed
    cases failed
  · obtain rfl := Except.ok.inj (read.symm.trans known)
    have bounded : ¬ Boundless address.query := fun boundless => absurd boundless.1 (by decide)
    obtain ⟨link, t, connected⟩ :=
      (outcome .fresh .complete rfl).connects.mpr ⟨by decide, bounded, rfl, rfl⟩
    exact ⟨c, link, t, settles, connected⟩

/-- Not every failure to connect is a fault of the configuration or of the connection. -/
theorem not_always_foreseen : ¬ ∀ text,
    (∃ f, ofText text {} = .error f ∧ f.family = .configuration) ∨
      ∃ c, ofText text {} = .ok c ∧ ∀ s driver, s.access = .driver driver →
        ∀ f t, Session.connect c s = .error f t →
          (f.family = .configuration ∨ f.family = .connection) ∧ s.Same t := by
  intro always
  have fine : ¬ Misread endlessAddress.query := by
    apply @fine_of_infinite _ 0 rfl rfl
    rintro value held
    cases held
  have boundless : Boundless endlessAddress.query :=
    ⟨rfl, "inf", .infinite false, rfl, by decide, Or.inr ⟨false, rfl⟩⟩
  have settles := ofText_alone read_endless fine
  rcases always endless with ⟨f, failed, -⟩ | ⟨c, known, foreseen⟩
  · rw [settles] at failed
    cases failed
  · obtain rfl := Except.ok.inj (settles.symm.trans known)
    obtain ⟨f, failed, first, second⟩ := @connect_boundless endlessAddress endless .fresh .complete
      rfl (by decide) boundless
    rcases (foreseen .fresh .complete rfl f _ failed).1 with family | family
    · exact first family
    · exact second family

end Connection.Config

end SystemCatalog
