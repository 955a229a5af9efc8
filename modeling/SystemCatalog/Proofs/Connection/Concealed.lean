import Mathlib.Data.List.Forall2
import SystemCatalog.Proofs.Address.RoundTrip
import SystemCatalog.Proofs.Connection.Settled
import SystemCatalog.Proofs.Session.Connecting

/-!
# Secrets in connection logs

Two addresses that differ in nothing but a password and values of sensitive options give settings
with one label, and connecting writes the same records: `connect_conceals`.
-/

namespace SystemCatalog.Connection

open List (Forall₂)
open Redaction (isSensitive)

/-! ### Entries that differ in secrets -/

/-- The entries have one key, and one value unless the key is sensitive. -/
def Alike {κ β : Type} (name : κ → String) (e d : κ × β) : Prop :=
  e.1 = d.1 ∧ (e.2 = d.2 ∨ isSensitive (name e.1) = true)

section Entries

variable {κ β : Type} {name : κ → String} {o p : List (κ × β)}

theorem alike_refl (o : List (κ × β)) : Forall₂ (Alike name) o o :=
  List.forall₂_same.mpr fun _ _ => ⟨rfl, Or.inl rfl⟩

theorem maskEntries_alike (alike : Forall₂ (Alike name) o p) (masking : β) :
    Redaction.maskEntries name masking o = Redaction.maskEntries name masking p := by
  induction alike with
  | nil => rfl
  | @cons e d o p head _ ih =>
    obtain ⟨key, value⟩ := head
    have first : (e.1, if isSensitive (name e.1) then masking else e.2) =
        (d.1, if isSensitive (name d.1) then masking else d.2) := by
      rw [← key]
      rcases value with same | sensitive
      · rw [same]
      · rw [if_pos sensitive, if_pos sensitive]
    exact congrArg₂ List.cons first ih

theorem keys_alike (alike : Forall₂ (Alike name) o p) : o.map (·.1) = p.map (·.1) := by
  induction alike with
  | nil => rfl
  | cons head _ ih => rw [List.map_cons, List.map_cons, head.1, ih]

theorem any_alike (alike : Forall₂ (Alike name) o p) (test : κ → Bool) :
    (o.any fun e => test e.1) = p.any fun e => test e.1 := by
  have keys := congrArg (List.any · test) (keys_alike alike)
  rwa [List.any_map, List.any_map] at keys

theorem append_alike {o' p' : List (κ × β)} (first : Forall₂ (Alike name) o p)
    (second : Forall₂ (Alike name) o' p') : Forall₂ (Alike name) (o ++ o') (p ++ p') :=
  List.rel_append first second

end Entries

/-! ### Queries -/

/-- The options have one name, and one value unless they are sensitive and both have a value. -/
def Concealed (e d : String × String) : Prop :=
  e.1 = d.1 ∧ (e.2 = d.2 ∨ isSensitive e.1 = true ∧ e.2 ≠ "" ∧ d.2 ≠ "")

section Queries

variable {q r : List (String × String)} {name : String}

theorem alike_of_concealed (concealed : Forall₂ Concealed q r) : Forall₂ (Alike id) q r :=
  concealed.imp fun _ _ h => ⟨h.1, h.2.imp_right And.left⟩

theorem blank_concealed {e d : String × String} (concealed : Concealed e d) :
    (e.2 != "") = (d.2 != "") := by
  rcases concealed.2 with same | ⟨-, first, second⟩
  · rw [same]
  · rw [bne_iff_ne.mpr first, bne_iff_ne.mpr second]

theorem filter_concealed (concealed : Forall₂ Concealed q r) :
    Forall₂ Concealed (q.filter fun o => o.2 != "") (r.filter fun o => o.2 != "") := by
  apply List.rel_filter _ concealed
  intro e d related
  change (e.2 != "") = true ↔ (d.2 != "") = true
  rw [blank_concealed related]

theorem lookup_concealed (concealed : Forall₂ Concealed q r) (name : String) :
    q.lookup name = r.lookup name ∨ isSensitive name = true ∧
      ∃ v w, q.lookup name = some v ∧ r.lookup name = some w ∧ v ≠ "" ∧ w ≠ "" := by
  induction concealed with
  | nil => exact Or.inl rfl
  | @cons e d q r head _ ih =>
    obtain ⟨key, value⟩ := head
    rw [List.lookup_cons, List.lookup_cons, ← key]
    cases named : name == e.1 with
    | false => exact ih
    | true =>
      rw [eq_of_beq named]
      rcases value with same | ⟨sensitive, first, second⟩
      · exact Or.inl (congrArg some same)
      · exact Or.inr ⟨sensitive, e.2, d.2, rfl, rfl, first, second⟩

theorem lookup_plain (concealed : Forall₂ Concealed q r) (plain : isSensitive name = false) :
    q.lookup name = r.lookup name := by
  rcases lookup_concealed concealed name with same | ⟨sensitive, -⟩
  · exact same
  · rw [plain] at sensitive
    cases sensitive

end Queries

/-! ### Options -/

namespace Options

variable {o p others others' : Options}

theorem newValue_alike (alike : Forall₂ (Alike Datum.plain) others others') {e d : Datum × Datum}
    {name : String} (named : e.1 = .text name) (related : Alike Datum.plain e d) :
    newValue others e = newValue others' d ∨ isSensitive name = true := by
  obtain ⟨key, value⟩ := related
  induction alike with
  | nil =>
    rw [named] at value
    exact value
  | @cons c c' others others' head _ ih =>
    rw [newValue_cons, newValue_cons, ← key, ← head.1]
    cases same : Datum.same e.1 c.1 with
    | false => exact ih
    | true =>
      -- A key that is the same as a text is that text, so it is as sensitive as the text.
      rw [named, same_text_iff] at same
      have given := head.2
      rw [same] at given
      exact given

theorem map_newValue_alike (first : Forall₂ (Alike Datum.plain) o p) (named : Named o)
    (second : Forall₂ (Alike Datum.plain) others others') :
    Forall₂ (Alike Datum.plain) (o.map fun e => (e.1, newValue others e))
      (p.map fun e => (e.1, newValue others' e)) := by
  induction first with
  | nil => exact .nil
  | @cons e d o p head _ ih =>
    obtain ⟨name, key⟩ := named e List.mem_cons_self
    refine .cons ⟨head.1, ?_⟩ (ih fun c mem => named c (List.mem_cons_of_mem _ mem))
    have value := newValue_alike second key head
    dsimp only
    rwa [key]

theorem override_alike (first : Forall₂ (Alike Datum.plain) o p) (named : Named o)
    (second : Forall₂ (Alike Datum.plain) others others') :
    Forall₂ (Alike Datum.plain) (o.override others) (p.override others') := by
  rw [override_eq, override_eq]
  apply append_alike (map_newValue_alike first named second)
  apply List.rel_filter _ second
  intro c d related
  change (!o.any fun e => Datum.same e.1 c.1) = true ↔ (!p.any fun e => Datum.same e.1 d.1) = true
  rw [any_alike first fun key => Datum.same key c.1, related.1]

theorem distinct_alike (alike : Forall₂ (Alike Datum.plain) o p) (distinct : Distinct o) :
    Distinct p := by
  have keys : (o.map (·.1)).Pairwise fun j k => Datum.same j k = false :=
    List.pairwise_map.mpr distinct
  rw [keys_alike alike] at keys
  exact List.pairwise_map.mp keys

theorem has_alike (alike : Forall₂ (Alike Datum.plain) o p) (name : String) :
    o.has name = p.has name :=
  any_alike alike fun key => Datum.same key (.text name)

theorem addNew_alike (alike : Forall₂ (Alike Datum.plain) o p) {e d : String × Datum}
    (related : Alike id e d) :
    Forall₂ (Alike Datum.plain) (o.addNew e.1 e.2) (p.addNew d.1 d.2) := by
  obtain ⟨key, value⟩ := related
  rw [addNew, addNew, has_alike alike, ← key]
  split
  · exact alike
  · exact append_alike alike (.cons ⟨rfl, value⟩ .nil)

theorem foldl_addNew_alike {added added' : List (String × Datum)}
    (first : Forall₂ (Alike Datum.plain) o p) (second : Forall₂ (Alike id) added added') :
    Forall₂ (Alike Datum.plain) (added.foldl (fun (o : Options) e => o.addNew e.1 e.2) o)
      (added'.foldl (fun (o : Options) e => o.addNew e.1 e.2) p) := by
  induction second generalizing o p with
  | nil => exact first
  | cons head _ ih => exact ih (addNew_alike first head)

end Options

/-! ### Settings -/

def Overrides.withOptions (given : Overrides) (others : Option Options) : Overrides :=
  { given with options := others.map .dict }

theorem ofDatum_withOptions (given : Overrides) (others : Option Options) :
    Options.ofDatum ((given.withOptions others).options.getD .null) = .ok (others.getD []) := by
  cases others with
  | none => rfl
  | some others => rfl

namespace Config

variable {q r : List (String × String)} {a b : Address} {c d : Config}

structure LoggedAlike (c d : Config) : Prop where
  timeout : c.timeout = d.timeout
  options : ∃ o p : Options, c.options = o.toDatum ∧ d.options = p.toDatum ∧
    Forall₂ (Alike Datum.plain) o p
  tls : Forall₂ (Alike id) ((c.tls.map Tls.options).getD []) ((d.tls.map Tls.options).getD [])
  label : ∃ text, c.label = .ok text ∧ d.label = .ok text

theorem driverOptions_alike (alike : LoggedAlike c d) :
    (∃ f, c.driverOptions = .error f ∧ d.driverOptions = .error f) ∨
      ∃ o p, c.driverOptions = .ok o ∧ d.driverOptions = .ok p ∧
        Forall₂ (Alike Datum.plain) o p := by
  obtain ⟨o, p, first, second, options⟩ := alike.options
  have added := Options.foldl_addNew_alike options alike.tls
  rw [driverOptions, driverOptions, first, second, Options.ofDatum_toDatum, Options.ofDatum_toDatum,
    ← alike.timeout]
  simp only [bind, Except.bind]
  generalize (((c.tls.map Tls.options).getD []).foldl _ o : Options) = sent at added ⊢
  generalize (((d.tls.map Tls.options).getD []).foldl _ p : Options) = sent' at added ⊢
  rw [← Options.has_alike added waitOption]
  split
  · cases c.timeout.whole with
    | error f => exact Or.inl ⟨f, rfl, rfl⟩
    | ok n =>
      have wait : Alike id (waitOption, Datum.int n) (waitOption, Datum.int n) := ⟨rfl, Or.inl rfl⟩
      exact Or.inr ⟨_, _, rfl, rfl, Options.addNew_alike added wait⟩
  · exact Or.inr ⟨_, _, rfl, rfl, added⟩

theorem connectingMessage_alike {o p : Options} (alike : Forall₂ (Alike Datum.plain) o p)
    (label : String) : Session.connectingMessage label o = Session.connectingMessage label p := by
  have masked : Redaction.options o = Redaction.options p := maskEntries_alike alike _
  unfold Session.connectingMessage
  rw [masked]

theorem connectingRecords_alike (alike : LoggedAlike c d) :
    Session.connectingRecords c = Session.connectingRecords d := by
  obtain ⟨text, first, second⟩ := alike.label
  unfold Session.connectingRecords
  rw [first, second]
  rcases driverOptions_alike alike with ⟨f, one, two⟩ | ⟨o, p, one, two, options⟩
  · rw [one, two]
  · rw [one, two]
    dsimp only
    rw [connectingMessage_alike options]

theorem records_connect_alike (alike : LoggedAlike c d) (s : Session.State) :
    ((Session.connect c).final s).records = ((Session.connect d).final s).records := by
  cases reached : s.access with
  | direct =>
    rw [Session.connect_final_unreached (Or.inl reached),
      Session.connect_final_unreached (Or.inl reached)]
  | driver driver =>
    by_cases there : driver = .missing
    · rw [there] at reached
      rw [Session.connect_final_unreached (Or.inr reached),
        Session.connect_final_unreached (Or.inr reached)]
    · rw [Session.records_connect reached there, Session.records_connect reached there,
        connectingRecords_alike alike]

/-- No option whose value is read as a word or a number is a secret. -/
theorem isSensitive_of_read {name : String} (read : name ∈ ["autocommit", "timeout", waitOption]) :
    isSensitive name = false := by
  have each : ∀ name ∈ ["autocommit", "timeout", waitOption], isSensitive name = false := by decide
  exact each name read

theorem misread_of_lookup (same : ∀ name, isSensitive name = false → q.lookup name = r.lookup name)
    (bad : Misread q) : Misread r := by
  have kept : ∀ name ∈ ["autocommit", "timeout", waitOption], q.lookup name = r.lookup name :=
    fun name read => same name (isSensitive_of_read read)
  cases bad with
  | autocommit value given other =>
    rw [kept _ (by simp)] at given
    exact .autocommit value given other
  | timeout value given other =>
    rw [kept _ (by simp)] at given
    exact .timeout value given other
  | wait value given other =>
    rw [kept _ (by simp [waitOption])] at given
    exact .wait value given other

theorem driverValue_alike {e f : String × String} (alike : Alike id e f) :
    Alike Datum.plain (.text e.1, driverValue e.1 e.2) (.text f.1, driverValue f.1 f.2) := by
  obtain ⟨key, value⟩ := alike
  refine ⟨congrArg Datum.text key, ?_⟩
  rcases value with same | sensitive
  · rw [key, same]
    exact Or.inl rfl
  · exact Or.inr sensitive

theorem driverShare_alike (alike : Forall₂ (Alike id) q r) :
    Forall₂ (Alike Datum.plain) (driverShare q) (driverShare r) := by
  rw [driverShare, driverShare, List.forall₂_map_left_iff, List.forall₂_map_right_iff]
  have share : Forall₂ (Alike id) (forDriver q) (forDriver r) := by
    apply List.rel_filter _ alike
    intro e f related
    change (!ownOptions.contains e.1) = true ↔ (!ownOptions.contains f.1) = true
    rw [related.1]
  exact share.imp fun _ _ related => driverValue_alike related

theorem tlsOptions_ofQuery? (q : List (String × String)) :
    ((Tls.ofQuery? q).map Tls.options).getD [] =
      (Tls.optionNames.map fun name => (name, Datum.ofOption (q.lookup name))).filter
        fun o => o.2.truthy := by
  cases read : Tls.ofQuery? q with
  | none =>
    have absent := ofQuery?_eq_none.mp read
    rw [eq_comm, Option.map_none, Option.getD_none, List.filter_eq_nil_iff]
    intro option mem
    obtain ⟨name, listed, rfl⟩ := List.mem_map.mp mem
    rw [absent name listed]
    exact Bool.false_ne_true
  | some tls =>
    rw [Option.map_some, Option.getD_some, Tls.options, ofQuery?_values read]
    rfl

/-- The entries are alike, and both count or neither does. -/
def CountAlike (e d : String × Datum) : Prop := Alike id e d ∧ e.2.truthy = d.2.truthy

theorem filter_truthy {o p : List (String × Datum)} (alike : Forall₂ CountAlike o p) :
    Forall₂ (Alike id) (o.filter fun e => e.2.truthy) (p.filter fun e => e.2.truthy) := by
  have filtered : Forall₂ CountAlike (o.filter fun e => e.2.truthy)
      (p.filter fun e => e.2.truthy) := by
    apply List.rel_filter _ alike
    intro e d related
    change e.2.truthy = true ↔ d.2.truthy = true
    rw [related.2]
  exact filtered.imp fun _ _ related => related.1

theorem tlsOptions_alike (concealed : Forall₂ Concealed q r) :
    Forall₂ (Alike id) (((Tls.ofQuery? q).map Tls.options).getD [])
      (((Tls.ofQuery? r).map Tls.options).getD []) := by
  rw [tlsOptions_ofQuery?, tlsOptions_ofQuery?]
  apply filter_truthy
  rw [List.forall₂_map_left_iff, List.forall₂_map_right_iff, List.forall₂_same]
  intro name _
  rcases lookup_concealed concealed name with same | ⟨sensitive, v, w, one, two, first, second⟩
  · rw [same]
    exact ⟨⟨rfl, Or.inl rfl⟩, rfl⟩
  · rw [one, two]
    refine ⟨⟨rfl, Or.inr sensitive⟩, ?_⟩
    exact (bne_iff_ne.mpr first).trans (bne_iff_ne.mpr second).symm

theorem settled_alike (concealed : Forall₂ Concealed a.query b.query)
    (redacted : a.redacted = b.redacted) {others others' : Option Options}
    (options : Forall₂ (Alike Datum.plain) (others.getD []) (others'.getD [])) (url url' : String)
    (given : Overrides) :
    LoggedAlike (settled url a (given.withOptions others) (others.getD []))
      (settled url' b (given.withOptions others') (others'.getD [])) where
  timeout := by
    dsimp only [settled, Overrides.withOptions]
    rw [lookup_plain concealed (isSensitive_of_read (by simp))]
  options := ⟨_, _, rfl, rfl, Options.override_alike
    (driverShare_alike (alike_of_concealed concealed)) (named_driverShare a.query) options⟩
  tls := by
    dsimp only [settled, Overrides.withOptions]
    cases given.tls with
    | some tls => exact alike_refl _
    | none => exact tlsOptions_alike concealed
  label := by
    refine ⟨_, label_of_address rfl, ?_⟩
    rw [label_of_address rfl, redacted]
    rfl

end Config

/-! ### Addresses -/

open Address (Spelling)

theorem redacted_alike {p q : String} (first : p ≠ "") (second : q ≠ "")
    {options others : List (String × String)} (alike : Forall₂ (Alike id) options others)
    (a : Address) :
    { a with password := some p, query := options : Address }.redacted =
      { a with password := some q, query := others : Address }.redacted := by
  have masked : Redaction.maskEntries id Redaction.mask options =
      Redaction.maskEntries id Redaction.mask others := maskEntries_alike alike _
  simp only [Address.redacted, Address.render, Address.written, Address.maskedQuery, masked,
    Address.filled_some first, Address.filled_some second, Option.map_some]

/-- What an address is written with besides its secrets: a scheme that is known, a user, the name of
a host, a port that there is and a schema that ends before the query. -/
structure Plain (w : Spelling) : Prop where
  scheme : w.scheme ∈ Address.schemes
  user : w.user ≠ ""
  host : ∀ c ∈ w.host, Address.isHostChar c = true
  port : ∀ n ∈ w.port, 1 ≤ n ∧ n ≤ 65535
  schema : ∀ c ∈ w.schema.getD [], c ≠ '?' ∧ c ≠ '#'

section Secrets

variable {w : Spelling} {coding : Address.Query.Coding} {password : String}
  {options : List (String × String)}

/-- The address with a password and options. -/
def withSecrets (w : Spelling) (coding : Address.Query.Coding) (password : String)
    (options : List (String × String)) : Spelling :=
  { w with
    password := some password
    query := if options.isEmpty then none else some (coding.spell options) }

theorem query_withSecrets (w : Spelling) (coding : Address.Query.Coding) (password : String)
    (options : List (String × String)) :
    (withSecrets w coding password options).query.getD [] = coding.spell options := by
  cases options with
  | nil => rfl
  | cons option options => rfl

theorem Plain.readable (plain : Plain w) (secret : password ≠ "") :
    (withSecrets w coding password options).Readable where
  scheme := plain.scheme
  user := plain.user
  password := fun blank => secret (Option.some.inj blank)
  host := fun c mem => Address.isCoded_of_isHostChar (plain.host c mem)
  port := fun n given => (plain.port n given).2
  schema := plain.schema
  query := by
    intro c mem
    rw [query_withSecrets] at mem
    exact coding.isKept_of_mem_spell mem

def plainAddress (w : Spelling) : Address where
  scheme := w.scheme
  username := some w.user
  host := Address.Authority.hostName? { host := w.host, port := [] }
  port := w.port.map Int.ofNat
  schema := w.readSchema

theorem Plain.ofText (plain : Plain w) (coding : Address.Query.Coding) (secret : password ≠ "")
    (distinct : (options.map (·.1)).Nodup) :
    Address.ofText (withSecrets w coding password options).text = .ok { plainAddress w with
      password := some password
      query := options.filter fun o => o.2 != "" } := by
  rw [(plain.readable secret).ofText_text, query_withSecrets,
    Address.Query.ofChars_spell coding distinct]
  rfl

end Secrets

/-- Two addresses that differ in a password and in values of sensitive options, with options of a
caller that differ in the same way, are both refused or give settings with one label, and connecting
writes the same records in every session. -/
theorem connect_conceals {w : Spelling} (plain : Plain w) (coding : Address.Query.Coding)
    {password password' : String} (first : password ≠ "") (second : password' ≠ "")
    {options options' : List (String × String)} (distinct : (options.map (·.1)).Nodup)
    (concealed : Forall₂ Concealed options options') (given : Overrides)
    (names : ∀ name ∈ given.names, name ∈ Overrides.settingNames) {others others' : Option Options}
    (keys : (others.getD []).Distinct)
    (alike : Forall₂ (Alike Datum.plain) (others.getD []) (others'.getD [])) :
    ((∃ f, Config.ofText (withSecrets w coding password options).text
        (given.withOptions others) = .error f) ∧
      ∃ f, Config.ofText (withSecrets w coding password' options').text
        (given.withOptions others') = .error f) ∨
    ∃ c d, Config.ofText (withSecrets w coding password options).text
        (given.withOptions others) = .ok c ∧
      Config.ofText (withSecrets w coding password' options').text
        (given.withOptions others') = .ok d ∧
      (∃ label, c.label = .ok label ∧ d.label = .ok label) ∧
      ∀ s, ((Session.connect c).final s).records = ((Session.connect d).final s).records := by
  have distinct' : (options'.map (·.1)).Nodup := by
    rwa [← keys_alike (alike_of_concealed concealed)]
  have read := plain.ofText coding first distinct
  have read' := plain.ofText coding second distinct'
  have queries := filter_concealed concealed
  have known : ∀ name ∈ (given.withOptions others).names, name ∈ Overrides.settingNames := names
  have known' : ∀ name ∈ (given.withOptions others').names, name ∈ Overrides.settingNames := names
  by_cases bad : Config.Misread (options.filter fun o => o.2 != "")
  · have bad' : Config.Misread (options'.filter fun o => o.2 != "") :=
      Config.misread_of_lookup (fun _ => lookup_plain queries) bad
    exact Or.inl ⟨Config.ofText_of_misread known read bad,
      Config.ofText_of_misread known' read' bad'⟩
  · have fine' : ¬ Config.Misread (options'.filter fun o => o.2 != "") := fun bad' =>
      bad (Config.misread_of_lookup (fun _ plain => (lookup_plain queries plain).symm) bad')
    have settles := Config.ofText_of_fine known read bad (ofDatum_withOptions given others) keys
    have settles' := Config.ofText_of_fine known' read' fine' (ofDatum_withOptions given others')
      (Options.distinct_alike alike keys)
    have logged := Config.settled_alike queries
      (redacted_alike first second (alike_of_concealed queries) (plainAddress w)) alike
      (withSecrets w coding password options).text (withSecrets w coding password' options').text
      given
    exact Or.inr ⟨_, _, settles, settles', logged.label, Config.records_connect_alike logged⟩

/-- Secrets for one address: a key for encryption and a token of the caller's. -/
def secretOptions (key : String) : List (String × String) :=
  [("sslkey", key), ("app", "x"), ("autocommit", "off")]

def secretGiven (token : String) : Options :=
  [(.text "Auth-Token", .text token), (.text "connect_timeout", .int 3)]

def metrics : Spelling where
  scheme := "crate"
  user := "ad@min"
  host := "Db-1.example".toList
  port := some 5433
  schema := some "metrics".toList

theorem plain_metrics : Plain metrics where
  scheme := by decide
  user := by decide
  host := List.all_iff_forall_prop.mp (by decide)
  port := by
    rintro n given
    cases given
    exact ⟨by decide, by decide⟩
  schema := List.all_iff_forall_prop.mp (by decide)

theorem concealed_secretOptions (key key' : String) (first : key ≠ "") (second : key' ≠ "") :
    Forall₂ Concealed (secretOptions key) (secretOptions key') := by
  have sensitive : isSensitive "sslkey" = true := by decide
  exact .cons ⟨rfl, Or.inr ⟨sensitive, first, second⟩⟩
    (.cons ⟨rfl, Or.inl rfl⟩ (.cons ⟨rfl, Or.inl rfl⟩ .nil))

theorem alike_secretGiven (token token' : String) :
    Forall₂ (Alike Datum.plain) (secretGiven token) (secretGiven token') := by
  have sensitive : isSensitive "Auth-Token" = true := by decide
  exact .cons ⟨rfl, Or.inr sensitive⟩ (.cons ⟨rfl, Or.inl rfl⟩ .nil)

theorem distinct_secretGiven (token : String) : (secretGiven token).Distinct := by
  rw [Options.Distinct, secretGiven, List.pairwise_pair, Options.same_text]
  decide

theorem fine_secretOptions :
    ¬ Config.Misread ((secretOptions "/a.pem").filter fun o => o.2 != "") := by
  rintro (⟨value, held, other⟩ | ⟨value, held, other⟩ | ⟨value, held, other⟩)
  · cases held
    exact absurd other (by decide)
  · cases held
  · cases held

theorem connect_conceals_keys : ∃ c d,
    Config.ofText (withSecrets metrics (.form true) "p@ss/1" (secretOptions "/a.pem")).text
      (Overrides.withOptions {} (some (secretGiven "one"))) = .ok c ∧
    Config.ofText (withSecrets metrics (.form true) ":other" (secretOptions "/b.pem")).text
      (Overrides.withOptions {} (some (secretGiven "two"))) = .ok d ∧
    (∃ label, c.label = .ok label ∧ d.label = .ok label) ∧
    ∀ s, ((Session.connect c).final s).records = ((Session.connect d).final s).records := by
  have options := concealed_secretOptions "/a.pem" "/b.pem" (by decide) (by decide)
  have others := alike_secretGiven "one" "two"
  have read := @Plain.ofText metrics "p@ss/1" (secretOptions "/a.pem") plain_metrics (.form true)
    (by decide) (by decide)
  have settles := @Config.ofText_of_fine (Overrides.withOptions {} (some (secretGiven "one"))) _ _ _
    (by decide) read fine_secretOptions (ofDatum_withOptions _ _) (distinct_secretGiven "one")
  rcases @connect_conceals metrics plain_metrics (.form true) "p@ss/1" ":other" (by decide)
    (by decide) _ _ (by decide) options {} (by decide) (some (secretGiven "one"))
    (some (secretGiven "two")) (distinct_secretGiven "one") others with ⟨⟨f, failed⟩, -⟩ | both
  · rw [settles] at failed
    cases failed
  · exact both

end SystemCatalog.Connection
