import Mathlib.Tactic.ByContra
import SystemCatalog.Proofs.Address.Reading
import SystemCatalog.Proofs.Connection.Options

/-!
# Settings from options

The settings of an address whose options can be read, and the fault of one with an option that
cannot be: `ofText_of_fine`, `refused_iff`.
-/

namespace SystemCatalog.Connection.Config

open Text

variable {query : List (String × String)} {name value : String} {given : Overrides} {f : Fault}

/-! ### Reading single options -/

theorem readWord_of_mem
    (word : wordOf value ∈ ["1", "true", "yes", "on", "0", "false", "no", "off"]) :
    readWord name value = .ok (["1", "true", "yes", "on"].contains (wordOf value)) := by
  unfold readWord
  change wordOf value ∈ ["1", "true", "yes", "on"] ++ ["0", "false", "no", "off"] at word
  rw [List.mem_append] at word
  dsimp only
  rw [← wordOf, yesWords, noWords]
  cases yes : ["1", "true", "yes", "on"].contains (wordOf value) with
  | true => rw [if_pos rfl]
  | false =>
    have no : ["0", "false", "no", "off"].contains (wordOf value) = true := by
      rcases word with mem | mem
      · rw [List.contains_iff_mem.mpr mem] at yes
        cases yes
      · exact List.contains_iff_mem.mpr mem
    rw [if_neg (by decide), if_pos no]

theorem readWord_of_not_mem
    (other : wordOf value ∉ ["1", "true", "yes", "on", "0", "false", "no", "off"]) :
    readWord name value = .error (.badWord name value) := by
  unfold readWord
  change wordOf value ∉ ["1", "true", "yes", "on"] ++ ["0", "false", "no", "off"] at other
  rw [List.mem_append, not_or] at other
  dsimp only
  rw [← wordOf, yesWords, noWords, if_neg, if_neg]
  · rw [List.contains_iff_mem]
    exact other.2
  · rw [List.contains_iff_mem]
    exact other.1

theorem readReal_eq (name value : String) : readReal name value =
    match Number.Binary64.read? value.toList with
    | some x => .ok (.float x)
    | none => .error (.badNumber "float" name value) := rfl

theorem readWhole_of_ok {n : Int} (read : Number.readInteger value.toList = .ok n) :
    readWhole name value = .ok (.int n) := by
  rw [readWhole, Datum.whole, read]

theorem readWhole_of_error (other : ∀ n, Number.readInteger value.toList ≠ .ok n) :
    readWhole name value = .error (.badNumber "int" name value) := by
  rw [readWhole, Datum.whole]
  cases read : Number.readInteger value.toList with
  | ok n => exact absurd read (other n)
  | error e =>
    cases e with
    | malformed => rfl
    | tooLong digits => rfl

theorem readOption_of_none {α : Type} {read : String → String → Except Fault α}
    (absent : query.lookup name = none) : readOption query name read = .ok none := by
  rw [readOption, absent]

theorem readOption_of_some {α : Type} {read : String → String → Except Fault α} {x : α}
    (held : query.lookup name = some value) (ok : read name value = .ok x) :
    readOption query name read = .ok (some x) := by
  rw [readOption, held]
  dsimp only
  rw [ok]
  rfl

theorem readOption_of_error {α : Type} {read : String → String → Except Fault α}
    (held : query.lookup name = some value) (error : read name value = .error f) :
    readOption query name read = .error f := by
  rw [readOption, held]
  dsimp only
  rw [error]
  rfl

/-! ### Reading the options of an address -/

def Words (query : List (String × String)) : Prop :=
  ∀ value, query.lookup "autocommit" = some value →
    wordOf value ∈ ["1", "true", "yes", "on", "0", "false", "no", "off"]

def Numbers (query : List (String × String)) : Prop :=
  ∀ value, query.lookup "timeout" = some value → Number.Binary64.read? value.toList ≠ none

def Waits (query : List (String × String)) : Prop :=
  ∀ value, query.lookup "connect_timeout" = some value →
    ∃ n, Number.readInteger value.toList = .ok n

theorem misread_iff : Misread query ↔ ¬ (Words query ∧ Numbers query ∧ Waits query) := by
  constructor
  · rintro bad ⟨words, numbers, waits⟩
    cases bad with
    | autocommit value held other => exact other (words value held)
    | timeout value held other => exact numbers value held other
    | wait value held other =>
      obtain ⟨n, read⟩ := waits value held
      exact other n read
  · intro bad
    by_contra fine
    refine bad ⟨?_, ?_, ?_⟩
    · intro value held
      by_contra other
      exact fine (.autocommit value held other)
    · intro value held other
      exact fine (.timeout value held other)
    · intro value held
      by_contra other
      exact fine (.wait value held fun n read => other ⟨n, read⟩)

theorem readAutocommit (words : Words query) : readOption query "autocommit" readWord =
    .ok ((query.lookup "autocommit").map fun value =>
      ["1", "true", "yes", "on"].contains (wordOf value)) := by
  cases held : query.lookup "autocommit" with
  | none => exact readOption_of_none held
  | some value => exact readOption_of_some held (readWord_of_mem (words value held))

theorem readTimeout (numbers : Numbers query) : readOption query "timeout" readReal =
    .ok ((query.lookup "timeout").bind fun value =>
      (Number.Binary64.read? value.toList).map .float) := by
  cases held : query.lookup "timeout" with
  | none => exact readOption_of_none held
  | some value =>
    rw [Option.bind_some]
    cases read : Number.Binary64.read? value.toList with
    | none => exact absurd read (numbers value held)
    | some x => exact readOption_of_some held (by rw [readReal, read])

theorem driverOption_of_ne {option : String × String} (other : option.1 ≠ "connect_timeout") :
    driverOption option = .ok (.text option.1, .text option.2) := by
  have unlike : (option.1 == waitOption) = false := beq_eq_false_iff_ne.mpr other
  rw [driverOption, unlike]
  rfl

theorem driverOption_wait {option : String × String} (wait : option.1 = "connect_timeout") :
    driverOption option = (readWhole option.1 option.2).map fun d => (.text option.1, d) := by
  have alike : (option.1 == waitOption) = true := beq_iff_eq.mpr wait
  rw [driverOption, alike, if_pos rfl]
  cases readWhole option.1 option.2 with
  | ok d => rfl
  | error f => rfl

theorem driverOption_eq (waits : Waits query) {option : String × String}
    (held : query.lookup option.1 = some option.2) :
    driverOption option = .ok (.text option.1, driverValue option.1 option.2) := by
  by_cases wait : option.1 = "connect_timeout"
  · rw [wait] at held
    obtain ⟨n, read⟩ := waits option.2 held
    rw [driverOption_wait wait, readWhole_of_ok read, driverValue, if_pos wait, read]
    rfl
  · rw [driverOption_of_ne wait, driverValue, if_neg wait]

theorem driverOption_family {option : String × String} (error : driverOption option = .error f) :
    f.family = .configuration := by
  by_cases wait : option.1 = "connect_timeout"
  · rw [driverOption_wait wait, readWhole] at error
    split at error
    · cases error
    · cases error
      rfl
  · rw [driverOption_of_ne wait] at error
    cases error

section Lists

variable {α β : Type} {read : α → Except Fault β}

theorem mapM_ok {g : α → β} {l : List α} (each : ∀ x ∈ l, read x = .ok (g x)) :
    l.mapM read = .ok (l.map g) := by
  induction l with
  | nil => rfl
  | cons x l ih =>
    rw [List.mapM_cons, each x List.mem_cons_self,
      ih fun y mem => each y (List.mem_cons_of_mem _ mem)]
    rfl

theorem mapM_error {l : List α} {x : α} (mem : x ∈ l) (error : read x = .error f) :
    ∃ y ∈ l, ∃ e, read y = .error e ∧ l.mapM read = .error e := by
  induction l with
  | nil => cases mem
  | cons first l ih =>
    rw [List.mapM_cons]
    cases result : read first with
    | error e => exact ⟨first, List.mem_cons_self, e, result, rfl⟩
    | ok y =>
      have later : x ∈ l := by
        rcases List.mem_cons.mp mem with rfl | later
        · rw [error] at result
          cases result
        · exact later
      obtain ⟨z, inside, e, failed, whole⟩ := ih later
      refine ⟨z, List.mem_cons_of_mem _ inside, e, failed, ?_⟩
      rw [whole]
      rfl

end Lists

def forDriver (query : List (String × String)) : List (String × String) :=
  query.filter fun option => !ownOptions.contains option.1

theorem readDriverShare (distinct : (query.map (·.1)).Nodup) (waits : Waits query) :
    (forDriver query).mapM driverOption = .ok (driverShare query) := by
  apply mapM_ok
  intro option mem
  have held := Assoc.lookup_of_mem distinct (List.mem_filter.mp mem).1
  exact driverOption_eq waits held

theorem mem_of_lookup (held : query.lookup name = some value) : (name, value) ∈ query := by
  obtain ⟨before, after, rfl, -⟩ := List.lookup_eq_some_iff.mp held
  exact List.mem_append_right _ List.mem_cons_self

theorem readDriverShare_error (held : query.lookup "connect_timeout" = some value)
    (other : ∀ n, Number.readInteger value.toList ≠ .ok n) :
    ∃ f, (forDriver query).mapM driverOption = .error f ∧ f.family = .configuration := by
  have mem : ("connect_timeout", value) ∈ forDriver query :=
    List.mem_filter.mpr ⟨mem_of_lookup held, rfl⟩
  have error : driverOption ("connect_timeout", value) =
      .error (.badNumber "int" "connect_timeout" value) := by
    rw [driverOption_wait rfl, readWhole_of_error other]
    rfl
  obtain ⟨option, -, f, failed, whole⟩ := mapM_error mem error
  exact ⟨f, whole, driverOption_family failed⟩

/-! ### The settings of an address -/

variable {address : Address} {others : Options} {url : String}

theorem ofAddress_of_not_words (bad : ¬ Words address.query) :
    ∃ f, ofAddress url address given = .error f ∧ f.family = .configuration := by
  simp only [Words, not_forall] at bad
  obtain ⟨value, held, other⟩ := bad
  refine ⟨.badWord "autocommit" value, ?_, rfl⟩
  rw [ofAddress, readOption_of_error held (readWord_of_not_mem other)]
  rfl

theorem ofAddress_of_not_numbers (words : Words address.query) (bad : ¬ Numbers address.query) :
    ∃ f, ofAddress url address given = .error f ∧ f.family = .configuration := by
  simp only [Numbers, not_forall, not_not] at bad
  obtain ⟨value, held, other⟩ := bad
  have failed : readReal "timeout" value = .error (.badNumber "float" "timeout" value) := by
    rw [readReal_eq, other]
  refine ⟨.badNumber "float" "timeout" value, ?_, rfl⟩
  rw [ofAddress, readAutocommit words, readOption_of_error held failed]
  rfl

theorem ofAddress_of_not_waits (words : Words address.query) (numbers : Numbers address.query)
    (bad : ¬ Waits address.query) :
    ∃ f, ofAddress url address given = .error f ∧ f.family = .configuration := by
  simp only [Waits, not_forall, not_exists] at bad
  obtain ⟨value, held, other⟩ := bad
  obtain ⟨f, failed, family⟩ := readDriverShare_error held other
  refine ⟨f, ?_, family⟩
  rw [ofAddress, readAutocommit words, readTimeout numbers, ← forDriver]
  simp only [bind, Except.bind, failed]

theorem ofAddress_of_misread (bad : Misread address.query) :
    ∃ f, ofAddress url address given = .error f ∧ f.family = .configuration := by
  by_cases words : Words address.query
  · by_cases numbers : Numbers address.query
    · exact ofAddress_of_not_waits words numbers fun waits =>
        misread_iff.mp bad ⟨words, numbers, waits⟩
    · exact ofAddress_of_not_numbers words numbers
  · exact ofAddress_of_not_words words

theorem named_driverShare (query : List (String × String)) : (driverShare query).Named := by
  intro e mem
  obtain ⟨option, -, rfl⟩ := List.mem_map.mp mem
  exact ⟨option.1, rfl⟩

theorem distinct_driverShare (distinct : (query.map (·.1)).Nodup) :
    (driverShare query).Distinct := by
  have names : query.Pairwise fun a b => a.1 ≠ b.1 := List.pairwise_map.mp distinct
  exact Options.distinct_texts _ (names.filter _)

def labelled (source : Datum) (text : String) : String :=
  if source.truthy then source.plain ++ " (" ++ text ++ ")" else text

theorem label_of_redacted {c : Config} {text : String} (written : c.redacted = .ok text) :
    c.label = .ok (labelled c.source text) := by
  rw [label, written]
  rfl

theorem label_of_address {c : Config} (target : c.target = .address address) :
    c.label = .ok (labelled c.source address.redacted) := by
  apply label_of_redacted
  rw [redacted, target]
  rfl

/-- What an address and the caller settle, if every option can be read. -/
def settled (url : String) (address : Address) (given : Overrides) (others : Options) : Config where
  url
  autocommit := orElse (given.autocommit.getD
    (((address.query.lookup "autocommit").map fun value =>
      Datum.bool (["1", "true", "yes", "on"].contains (wordOf value))).getD .null)) (.bool true)
  timeout := given.timeout.getD (((address.query.lookup "timeout").bind fun value =>
    (Number.Binary64.read? value.toList).map Datum.float).getD .null)
  options := (heldOptions address others).toDatum
  tls := given.tls.getD (Tls.ofQuery? address.query)
  target := .address address
  source := given.source.getD .null

theorem ofAddress_of_fine (fine : ¬ Misread address.query) (keys : (address.query.map (·.1)).Nodup)
    (names : ∀ name ∈ given.names, name ∈ Overrides.settingNames)
    (read : Options.ofDatum (given.options.getD .null) = .ok others) (distinct : others.Distinct) :
    ofAddress url address given = .ok (settled url address given others) := by
  obtain ⟨words, numbers, waits⟩ := not_not.mp fun bad => fine (misread_iff.mpr bad)
  have allowed : given.allow Overrides.settingNames = .ok () := by
    have all : given.names.all Overrides.settingNames.contains = true := by
      rw [List.all_eq_true]
      intro name mem
      exact List.contains_iff_mem.mpr (names name mem)
    rw [Overrides.allow, if_pos all]
  have merged : Options.merge (driverShare address.query) others =
      (driverShare address.query).override others :=
    Options.merge_eq_override
      (Options.single_of_named (named_driverShare address.query) distinct) distinct
  rw [ofAddress, readAutocommit words, readTimeout numbers, ← forDriver]
  simp only [bind, Except.bind, readDriverShare keys waits, read, allowed, merged, Option.map_map]
  rfl

theorem ofQuery?_values {tls : Tls} (read : Tls.ofQuery? query = some tls) :
    tls.values = Tls.optionNames.map fun name => .ofOption (query.lookup name) := by
  unfold Tls.ofQuery? at read
  split at read
  · cases read
    rfl
  · cases read

theorem ofQuery?_eq_none : Tls.ofQuery? query = none ↔
    ∀ name ∈ Tls.optionNames, query.lookup name = none := by
  unfold Tls.ofQuery?
  split
  · next some =>
    obtain ⟨name, mem, held⟩ := List.any_eq_true.mp some
    constructor
    · intro absurd
      cases absurd
    · intro none
      rw [none name mem] at held
      cases held
  · next none =>
    refine ⟨fun _ name mem => ?_, fun _ => rfl⟩
    rw [Bool.not_eq_true, List.any_eq_false] at none
    have absent := none name mem
    rwa [Bool.not_eq_true, Option.isSome_eq_false_iff, Option.isNone_iff_eq_none] at absent

theorem shares_settled (fine : ¬ Misread address.query) :
    Shares address given others (settled url address given others) where
  autocommit_given := by
    intro d set
    rw [settled, set]
    rfl
  autocommit_read := by
    intro unset value held
    rw [settled, unset, held]
    rfl
  autocommit_absent := by
    intro unset absent
    rw [settled, unset, absent]
    rfl
  timeout_given := by
    intro d set
    rw [settled, set]
    rfl
  timeout_read := by
    intro unset value held
    cases read : Number.Binary64.read? value.toList with
    | none => exact absurd (.timeout value held read) fine
    | some x =>
      refine ⟨x, rfl, ?_⟩
      rw [settled, unset, held, Option.bind_some, read]
      rfl
  timeout_absent := by
    intro unset absent
    rw [settled, unset, absent]
    rfl
  tls_given := by
    intro tls set
    rw [settled, set]
    rfl
  tls_read := by
    intro unset tls held
    rw [settled, unset] at held
    exact ofQuery?_values held
  tls_absent := by
    intro unset
    rw [settled, unset]
    exact ofQuery?_eq_none
  options := rfl
  target := rfl

/-! ### The settings of a text -/

section Texts

variable {text : String} (names : ∀ name ∈ given.names, name ∈ Overrides.settingNames)

include names

theorem refuse_names : given.refuse [Overrides.reservedName, Overrides.addressName] = .ok () := by
  have none :
      ([Overrides.reservedName, Overrides.addressName].any given.names.contains) = false := by
    rw [List.any_eq_false]
    intro name mem contained
    have setting := names name (List.contains_iff_mem.mp contained)
    have others : ∀ name ∈ [Overrides.reservedName, Overrides.addressName],
        name ∉ Overrides.settingNames := by decide
    exact others name mem setting
  rw [Overrides.refuse, none]
  rfl

theorem ofText_of_ok (read : Address.ofText text = .ok address) :
    ofText text given = ofAddress text address given := by
  rw [ofText, refuse_names names, read]
  rfl

theorem ofText_of_fine (read : Address.ofText text = .ok address) (fine : ¬ Misread address.query)
    (held : Options.ofDatum (given.options.getD .null) = .ok others) (distinct : others.Distinct) :
    ofText text given = .ok (settled text address given others) := by
  rw [ofText_of_ok names read]
  exact ofAddress_of_fine fine (Address.nodup_query read) names held distinct

theorem ofText_of_misread (read : Address.ofText text = .ok address) (bad : Misread address.query) :
    ∃ f, ofText text given = .error f := by
  rw [ofText_of_ok names read]
  obtain ⟨f, failed, -⟩ := ofAddress_of_misread bad
  exact ⟨f, failed⟩

theorem ofText_of_error (failed : Address.ofText text = .error f) :
    ofText text given = .error (.unreadableAddress f) := by
  rw [ofText, refuse_names names, failed]
  rfl

theorem refused_iff (held : Options.ofDatum (given.options.getD .null) = .ok others)
    (distinct : others.Distinct) :
    (∃ f, ofText text given = .error f ∧ f.family = .configuration) ↔
      (∃ f, Address.ofText text = .error f) ∨
        ∃ a, Address.ofText text = .ok a ∧ Misread a.query := by
  constructor
  · rintro ⟨f, failed, -⟩
    cases read : Address.ofText text with
    | error f => exact Or.inl ⟨f, rfl⟩
    | ok a =>
      refine Or.inr ⟨a, rfl, ?_⟩
      by_contra fine
      rw [ofText_of_fine names read fine held distinct] at failed
      cases failed
  · rintro (⟨f, failed⟩ | ⟨a, read, bad⟩)
    · exact ⟨_, ofText_of_error names failed, rfl⟩
    · rw [ofText_of_ok names read]
      exact ofAddress_of_misread bad

end Texts

end SystemCatalog.Connection.Config
