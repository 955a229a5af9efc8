import SystemCatalog.Proofs.Connection.Settled
import SystemCatalog.Proofs.Session.Connecting
import SystemCatalog.Proofs.Session.Readings

/-!
# What becomes of an address's options

Every option of an address reaches one place, the settings, the encryption or the driver:
`ofText_shares`.
-/

namespace SystemCatalog.Connection.Config

variable {given : Overrides} {address : Address}

/-! ### What the driver gets -/

variable {c : Config} {o : Options}

theorem tlsOptions_names (tls : Tls) : (tls.options.map (·.1)).Sublist Tls.optionNames := by
  have names : (Tls.optionNames.zip tls.values).map (·.1) = Tls.optionNames := rfl
  rw [← names]
  exact (List.filter_sublist).map _

theorem encryptionOptions_names (c : Config) :
    (((c.tls.map Tls.options).getD []).map (·.1)).Sublist Tls.optionNames := by
  cases c.tls with
  | none => exact List.nil_sublist _
  | some tls => exact tlsOptions_names tls

theorem has_encryption {name : String} (other : name ∉ Tls.optionNames) :
    (c.encryption o).has name = false := by
  rw [Options.has, List.any_eq_false]
  intro e mem same
  obtain ⟨option, inside, rfl⟩ := List.mem_map.mp mem
  rw [Options.same_text, beq_iff_eq] at same
  have listed := (encryptionOptions_names c).subset
    (List.mem_map_of_mem (List.mem_filter.mp inside).1)
  rw [same] at listed
  exact other listed

theorem whole_of_isFinite {d : Datum} (finite : isFinite d = true) (truthy : d.truthy = true) :
    ∃ n, d.whole = .ok n := by
  cases d with
  | null => cases truthy
  | bool b => exact ⟨_, rfl⟩
  | int n => exact ⟨_, rfl⟩
  | float x =>
    cases x with
    | nan => cases finite
    | infinite negative => cases finite
    | finite negative m e => exact ⟨_, rfl⟩
  | text s => cases finite
  | list items => cases finite
  | tuple items => cases finite
  | dict entries => cases finite

/-- The time to wait is a whole number, if the driver needs one. -/
def Whole (c : Config) (o : Options) : Prop :=
  c.timeout.truthy = true → o.has waitOption = false → ∃ n, c.timeout.whole = .ok n

theorem driverOptions_held (held : Options.ofDatum c.options = .ok o) : c.driverOptions =
    if c.timeout.truthy && !o.has waitOption then
      c.timeout.whole.map fun n => o ++ c.encryption o ++ [(.text waitOption, .int n)]
    else .ok (o ++ c.encryption o) := by
  have distinct : (((c.tls.map Tls.options).getD []).map (·.1)).Nodup :=
    (encryptionOptions_names c).nodup (by decide)
  have known : (o ++ c.encryption o).has waitOption = o.has waitOption := by
    rw [Options.has_append, has_encryption (by decide), Bool.or_false]
  rw [driverOptions, held]
  simp only [bind, Except.bind, Options.foldl_addNew o distinct]
  change (if c.timeout.truthy && !(o ++ c.encryption o).has waitOption then _ else _) = _
  rw [known]
  cases wait : c.timeout.truthy && !o.has waitOption with
  | false => rfl
  | true =>
    rw [Bool.and_eq_true, Bool.not_eq_true'] at wait
    rw [if_pos rfl, if_pos rfl]
    cases c.timeout.whole with
    | error f => rfl
    | ok n =>
      change Except.ok (Options.addNew (o ++ c.encryption o) waitOption (.int n)) = _
      rw [Options.addNew, known, wait.2]
      rfl

theorem driverOptions_of_whole (held : Options.ofDatum c.options = .ok o) (whole : c.Whole o) :
    c.driverOptions = .ok (c.passed o) := by
  rw [driverOptions_held held, passed, waiting]
  cases wait : c.timeout.truthy && !o.has waitOption with
  | false => rw [if_neg (by decide), if_neg (by decide), List.append_nil]
  | true =>
    rw [Bool.and_eq_true, Bool.not_eq_true'] at wait
    obtain ⟨n, value⟩ := whole wait.1 wait.2
    rw [if_pos rfl, if_pos rfl, value]
    rfl

theorem driverOptions_eq (held : Options.ofDatum c.options = .ok o)
    (finite : isFinite c.timeout = true) : c.driverOptions = .ok (c.passed o) :=
  driverOptions_of_whole held fun truthy _ => whole_of_isFinite finite truthy

/-- No option of the driver has the name of an argument of its own. -/
def Free (o : Options) : Prop :=
  ∀ e ∈ o, ∃ name, e.1 = .text name ∧ name ≠ "autocommit" ∧ name ≠ "conninfo"

theorem mem_encryption {e : Datum × Datum} (mem : e ∈ c.encryption o) :
    ∃ name ∈ Tls.optionNames, e.1 = .text name ∧ o.has name = false := by
  obtain ⟨option, inside, rfl⟩ := List.mem_map.mp mem
  obtain ⟨listed, new⟩ := List.mem_filter.mp inside
  rw [Bool.not_eq_true'] at new
  exact ⟨option.1, (encryptionOptions_names c).subset (List.mem_map_of_mem listed), rfl, new⟩

theorem mem_waiting {e : Datum × Datum} (mem : e ∈ c.waiting o) :
    e.1 = .text waitOption ∧ o.has waitOption = false := by
  unfold waiting at mem
  split at mem
  · next wait =>
    rw [Bool.and_eq_true, Bool.not_eq_true'] at wait
    split at mem
    · rw [List.mem_singleton.mp mem]
      exact ⟨rfl, wait.2⟩
    · cases mem
  · cases mem

theorem free_passed (free : Free o) : Free (c.passed o) := by
  intro e mem
  rw [passed, List.mem_append, List.mem_append] at mem
  rcases mem with (mem | mem) | mem
  · exact free e mem
  · obtain ⟨name, listed, key, -⟩ := mem_encryption mem
    have others : ∀ name ∈ Tls.optionNames, name ≠ "autocommit" ∧ name ≠ "conninfo" := by decide
    exact ⟨name, key, others name listed⟩
  · exact ⟨waitOption, (mem_waiting mem).1, by decide, by decide⟩

theorem acceptable_of_free (free : Free o) : Session.acceptable o = true := by
  rw [Session.acceptable, List.all_eq_true]
  intro e mem
  obtain ⟨name, key, first, second⟩ := free e mem
  rw [key]
  simp [first, second]

theorem distinct_encryption (c : Config) (o : Options) : (c.encryption o).Distinct := by
  have names : ((c.tls.map Tls.options).getD []).Pairwise fun a b => a.1 ≠ b.1 :=
    List.pairwise_map.mp ((encryptionOptions_names c).nodup (by decide))
  exact Options.distinct_texts _ (names.filter _)

theorem distinct_waiting (c : Config) (o : Options) : (c.waiting o).Distinct := by
  unfold waiting
  split
  · split
    · exact List.pairwise_singleton _ _
    · exact List.Pairwise.nil
  · exact List.Pairwise.nil

theorem distinct_passed (distinct : o.Distinct) : (c.passed o).Distinct := by
  have new : ∀ e ∈ o, ∀ name, o.has name = false → Datum.same e.1 (.text name) = false := by
    intro e mem name absent
    rw [Bool.eq_false_iff]
    exact List.any_eq_false.mp absent e mem
  rw [passed, Options.Distinct, List.pairwise_append, List.pairwise_append]
  refine ⟨⟨distinct, distinct_encryption c o, ?_⟩, distinct_waiting c o, ?_⟩
  · intro e mem d added
    obtain ⟨name, -, key, absent⟩ := mem_encryption added
    rw [key]
    exact new e mem name absent
  · intro e mem d added
    obtain ⟨key, absent⟩ := mem_waiting added
    rw [key]
    rcases List.mem_append.mp mem with mem | mem
    · exact new e mem waitOption absent
    · obtain ⟨name, listed, own, -⟩ := mem_encryption mem
      have others : ∀ name ∈ Tls.optionNames, (name == waitOption) = false := by decide
      rw [own, Options.same_text]
      exact others name listed

/-! ### From the text to the driver -/

theorem events_connect_settled (held : c.options = o.toDatum) (target : c.target = .address address)
    (finite : isFinite c.timeout = true) (free : Free o) {s : Session.State}
    {driver : Session.Driver} (reached : s.access = .driver driver) (there : driver ≠ .missing) :
    ((Session.connect c).final s).events = s.events ++
      [.connecting address.conninfo ((.text "autocommit", c.autocommit) :: c.passed o)] := by
  have read : Options.ofDatum c.options = .ok o := by rw [held, Options.ofDatum_toDatum]
  have options := driverOptions_eq read finite
  have conninfo : c.conninfo = .ok address.conninfo := by
    rw [Config.conninfo, target]
    rfl
  rw [Session.events_connect reached there, Session.connectingEvents, options,
    label_of_address target, conninfo]
  dsimp only
  rw [acceptable_of_free (free_passed free), if_pos rfl]

theorem distinct_arguments (distinct : o.Distinct) (free : Free o) :
    Options.Distinct ((.text "autocommit", c.autocommit) :: c.passed o) := by
  rw [Options.Distinct, List.pairwise_cons]
  refine ⟨?_, distinct_passed distinct⟩
  intro e mem
  obtain ⟨name, key, other, -⟩ := free_passed free e mem
  rw [key, Options.same_text]
  exact beq_eq_false_iff_ne.mpr (Ne.symm other)

/-- Settings are refused for an address that cannot be read and for options with values that they
cannot have.  Otherwise every option reaches its place, and the driver gets its share with what the
caller sets, the options for encryption and the time to wait, none of them twice. -/
theorem ofText_shares (text : String) {given : Overrides} {others : Option Options}
    (set : given.options = others.map Datum.dict) (distinct : (others.getD []).Distinct)
    (names : ∀ name ∈ given.names, name ∈ Overrides.settingNames) :
    ((∃ f, ofText text given = .error f ∧ f.family = .configuration) ↔
      (∃ f, Address.ofText text = .error f) ∨
        ∃ a, Address.ofText text = .ok a ∧ Misread a.query) ∧
    ∀ a, Address.ofText text = .ok a →
      ((a.query.map (·.1)).Nodup ∧ ∀ name, a.query.lookup name =
        (Address.Query.items (Address.queryText text.toList)).lookup name) ∧
      (¬ Misread a.query → ∃ c, ofText text given = .ok c ∧ Shares a given (others.getD []) c ∧
        (isFinite c.timeout = true → Free (heldOptions a (others.getD [])) → ∀ s driver,
          s.access = .driver driver → driver ≠ .missing →
          ((Session.connect c).final s).events = s.events ++
              [.connecting a.conninfo ((.text "autocommit", c.autocommit) ::
                c.passed (heldOptions a (others.getD [])))] ∧
            Options.Distinct ((.text "autocommit", c.autocommit) ::
              c.passed (heldOptions a (others.getD []))))) := by
  have read : Options.ofDatum (given.options.getD .null) = .ok (others.getD []) := by
    rw [set]
    cases others with
    | none => rfl
    | some others => rfl
  refine ⟨refused_iff names read distinct, ?_⟩
  intro a ok
  refine ⟨⟨Address.nodup_query ok, Address.lookup_query ok⟩, ?_⟩
  intro well
  refine ⟨_, ofText_of_fine names ok well read distinct, shares_settled well, ?_⟩
  intro finite free s driver reached there
  have held : (heldOptions a (others.getD [])).Distinct :=
    Options.distinct_override (distinct_driverShare (Address.nodup_query ok)) distinct
  exact ⟨events_connect_settled rfl rfl finite free reached there, distinct_arguments held free⟩

/-- An address with options for every place, of which the caller sets two. -/
def mixed : String :=
  "crate://u@db?autocommit=off&timeout=7.9&sslmode=require&sslkey=k&app=x&app=z&note="

def mixedAddress : Address where
  scheme := "crate"
  username := some "u"
  host := some "db"
  query := [("autocommit", "off"), ("timeout", "7.9"), ("sslmode", "require"), ("sslkey", "k"),
    ("app", "x")]

def mixedOptions : Options := [(.text "app", .text "y"), (.text "sslkey", .text "mine")]

def mixedGiven : Overrides where
  options := some (.dict mixedOptions)
  names := ["options"]

theorem read_mixed : Address.ofText mixed = .ok mixedAddress := by rfl

theorem fine_mixed : ¬ Misread mixedAddress.query := by
  rintro (⟨value, held, other⟩ | ⟨value, held, other⟩ | ⟨value, held, other⟩)
  · cases held
    exact absurd other (by decide)
  · cases held
    exact absurd other (by decide)
  · cases held

theorem ofText_shares_mixed : ∃ c, ofText mixed mixedGiven = .ok c ∧
    ((Session.connect c).final .fresh).events = [.connecting "postgresql://u@db:5432/doc" [
      (.text "autocommit", .bool false), (.text "app", .text "y"),
      (.text "sslkey", .text "mine"), (.text "sslmode", .text "require"),
      (.text "connect_timeout", .int 7)]] := by
  have distinct : mixedOptions.Distinct := by
    rw [Options.Distinct, mixedOptions, List.pairwise_pair, Options.same_text]
    decide
  have held : heldOptions mixedAddress mixedOptions = mixedOptions := rfl
  have free : Free mixedOptions := by
    intro e mem
    simp only [mixedOptions, List.mem_cons, List.not_mem_nil, or_false] at mem
    rcases mem with rfl | rfl
    · exact ⟨"app", rfl, by decide, by decide⟩
    · exact ⟨"sslkey", rfl, by decide, by decide⟩
  have shares := @ofText_shares mixed mixedGiven (some mixedOptions) rfl distinct (by decide)
  obtain ⟨c, read, -, sent⟩ := (shares.2 mixedAddress read_mixed).2 fine_mixed
  have settles := @ofText_of_fine mixedGiven mixedAddress mixedOptions mixed (by decide) read_mixed
    fine_mixed rfl distinct
  obtain rfl := Except.ok.inj (read.symm.trans settles)
  refine ⟨_, settles, ?_⟩
  rw [Option.getD_some, held] at sent
  have conninfo : mixedAddress.conninfo = "postgresql://u@db:5432/doc" := by decide
  rw [(sent rfl free .fresh .complete rfl (by decide)).1, conninfo]
  rfl

end SystemCatalog.Connection.Config
