import Mathlib.Data.Bool.AllAny
import SystemCatalog.Proofs.Connection.Settled
import SystemCatalog.Proofs.Session.Connecting
import SystemCatalog.Proofs.Session.Readings

/-!
# Secrets in the logs of plain settings

Settings that are made from a url alone hold no address, and it is the address that masks its
secrets.  So the url is logged as it is, and its password can be told from the label and from the
record of connecting: `ofUrl_reveals`.
-/

namespace SystemCatalog.Connection

open Address (spelled authorityOf)

def Overrides.Unread (given : Overrides) : Prop := (given.address.getD .null).truthy = false

namespace Config

variable {given : Overrides} {url url' : String}

def plainly (url : String) (given : Overrides) : Config where
  url
  autocommit := given.autocommit.getD (.bool true)
  timeout := given.timeout.getD .null
  options := given.options.getD .null
  tls := given.tls.getD none
  target := .ofDatum (given.address.getD .null)
  source := given.source.getD .null

theorem ofUrl_of_known
    (names : ∀ name ∈ given.names, name ∈ Overrides.addressName :: Overrides.settingNames)
    (url : String) : ofUrl url given = .ok (plainly url given) := by
  have all : given.names.all (Overrides.addressName :: Overrides.settingNames).contains = true := by
    rw [List.all_eq_true]
    intro name mem
    exact List.contains_iff_mem.mpr (names name mem)
  rw [ofUrl, Overrides.allow, if_pos all]
  rfl

theorem driverOptions_plainly (url url' : String) (given : Overrides) :
    (plainly url given).driverOptions = (plainly url' given).driverOptions := rfl

theorem redacted_plainly (unread : given.Unread) (url : String) :
    (plainly url given).redacted = .ok url := by
  rw [redacted, plainly]
  unfold Overrides.Unread at unread
  generalize given.address.getD .null = d at unread
  dsimp only
  rw [Target.ofDatum]
  split
  · rfl
  · rw [Target.write, unread]
    rfl

theorem labelled_inj {source : Datum} : labelled source url = labelled source url' ↔ url = url' := by
  unfold labelled
  split
  · rw [String.append_left_inj, String.append_right_inj]
  · rfl

theorem label_plainly (unread : given.Unread) (url : String) :
    (plainly url given).label = .ok (labelled (given.source.getD .null) url) :=
  label_of_redacted (redacted_plainly unread url)

theorem connectingMessage_inj {options : Options} :
    Session.connectingMessage url options = Session.connectingMessage url' options ↔
      url = url' := by
  unfold Session.connectingMessage
  rw [String.append_left_inj, String.append_left_inj, String.append_left_inj,
    String.append_right_inj]

theorem connectingRecords_plainly (unread : given.Unread) {options : Options}
    (taken : (plainly url given).driverOptions = .ok options) :
    Session.connectingRecords (plainly url given) = Session.connectingRecords (plainly url' given) ↔
      url = url' := by
  unfold Session.connectingRecords
  rw [← driverOptions_plainly url url', taken, label_plainly unread, label_plainly unread]
  dsimp only
  rw [List.cons.injEq, Journal.Record.mk.injEq, connectingMessage_inj, labelled_inj]
  simp

end Config

/-- The text of an address with a user and a password, each part as it is written. -/
def credentialed (scheme : String) (user host : List Char) (port schema query : Option (List Char))
    (password : List Char) : String :=
  String.ofList (spelled scheme (authorityOf user (some password) host port) schema query)

theorem credentialed_inj {scheme : String} {user host : List Char}
    {port schema query : Option (List Char)} {password password' : List Char} :
    credentialed scheme user host port schema query password =
      credentialed scheme user host port schema query password' ↔ password = password' := by
  simp [credentialed, spelled, authorityOf, Address.Written.signed, String.ofList_inj]

/-- Of two urls that differ in nothing but a password, and the settings that are made from them
alone: the texts for logs, the labels and the records of connecting are the same only if the
passwords are. -/
theorem ofUrl_reveals (scheme : String) (user host : List Char)
    (port schema query : Option (List Char)) {given : Overrides} (unread : given.Unread)
    (names : ∀ name ∈ given.names, name ∈ Overrides.addressName :: Overrides.settingNames)
    (password password' : List Char) :
    ∃ c d,
      Config.ofUrl (credentialed scheme user host port schema query password) given = .ok c ∧
      Config.ofUrl (credentialed scheme user host port schema query password') given = .ok d ∧
      c.redacted = .ok (credentialed scheme user host port schema query password) ∧
      (c.redacted = d.redacted ↔ password = password') ∧
      (c.label = d.label ↔ password = password') ∧
      ∀ s driver options, s.access = .driver driver → driver ≠ .missing →
        c.driverOptions = .ok options →
        (((Session.connect c).final s).records = ((Session.connect d).final s).records ↔
          password = password') := by
  refine ⟨_, _, Config.ofUrl_of_known names _, Config.ofUrl_of_known names _,
    Config.redacted_plainly unread _, ?_, ?_, ?_⟩
  · rw [Config.redacted_plainly unread, Config.redacted_plainly unread, Except.ok.injEq,
      credentialed_inj]
  · rw [Config.label_plainly unread, Config.label_plainly unread, Except.ok.injEq,
      Config.labelled_inj, credentialed_inj]
  · intro s driver options reached there taken
    rw [Session.records_connect reached there, Session.records_connect reached there,
      List.append_cancel_left_eq, Config.connectingRecords_plainly unread taken, credentialed_inj]

def sourced : Overrides where
  options := some (.dict [(.text "connect_timeout", .int 3)])
  source := some (.text "DSN")
  names := ["options", "source"]

theorem ofUrl_reveals_sourced : ∃ c d,
    Config.ofUrl "crate://ad%40min:one@db:5433/doc" sourced = .ok c ∧
    Config.ofUrl "crate://ad%40min:two@db:5433/doc" sourced = .ok d ∧
    c.redacted = .ok "crate://ad%40min:one@db:5433/doc" ∧
    c.redacted ≠ d.redacted ∧ c.label ≠ d.label ∧
    ((Session.connect c).final .fresh).records ≠ ((Session.connect d).final .fresh).records := by
  have known : ∀ name ∈ sourced.names, name ∈ Overrides.addressName :: Overrides.settingNames := by
    decide
  have other : "one".toList ≠ "two".toList := by decide
  obtain ⟨c, d, first, second, shown, redacted, label, records⟩ := @ofUrl_reveals "crate"
    "ad%40min".toList "db".toList (some "5433".toList) (some "doc".toList) none sourced rfl known
    "one".toList "two".toList
  have one : credentialed "crate" "ad%40min".toList "db".toList (some "5433".toList)
      (some "doc".toList) none "one".toList = "crate://ad%40min:one@db:5433/doc" := by decide
  have two : credentialed "crate" "ad%40min".toList "db".toList (some "5433".toList)
      (some "doc".toList) none "two".toList = "crate://ad%40min:two@db:5433/doc" := by decide
  have settled := Except.ok.inj (first.symm.trans (Config.ofUrl_of_known known _))
  have taken : c.driverOptions = .ok [(.text "connect_timeout", .int 3)] := by
    rw [settled]
    rfl
  rw [one] at first shown
  rw [two] at second
  exact ⟨c, d, first, second, shown, mt redacted.mp other, mt label.mp other,
    mt (records .fresh .complete _ rfl (by decide) taken).mp other⟩

def short : Address.Spelling where
  scheme := "crate"
  user := "u"
  host := "h".toList

theorem readable_short {password : String} (inhabited : password ≠ "") :
    Address.Spelling.Readable { short with password := some password } where
  scheme := show "crate" ∈ Address.schemes by decide
  user := show "u" ≠ "" by decide
  password := fun blank => inhabited (Option.some.inj blank)
  host := show ∀ c ∈ "h".toList, Address.isCoded c = true from
    List.all_iff_forall_prop.mp (by decide)
  port := fun n given => nomatch given
  schema := fun c mem => nomatch mem
  query := fun c mem => nomatch mem

theorem not_always_masked : ¬ ∀ (w : Address.Spelling) (password password' : String),
    Address.Spelling.Readable { w with password := some password } →
    Address.Spelling.Readable { w with password := some password' } →
    ∀ c d, Config.ofUrl (Address.Spelling.text { w with password := some password }) {} = .ok c →
      Config.ofUrl (Address.Spelling.text { w with password := some password' }) {} = .ok d →
      c.redacted = d.redacted ∧ c.label = d.label := by
  intro masked
  have same := (masked short "one" "two" (readable_short (by decide)) (readable_short (by decide))
    _ _ rfl rfl).1
  exact absurd (Except.ok.inj same) (by decide)

end SystemCatalog.Connection
