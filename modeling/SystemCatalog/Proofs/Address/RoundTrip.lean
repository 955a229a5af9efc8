import Mathlib.Data.Bool.AllAny
import SystemCatalog.Proofs.Address.Reading

/-!
# Reading what the driver gets

The address that is written for the driver is read back with the defaults filled in and everything
else as it was: `ofText_conninfo`.
-/

namespace SystemCatalog.Address

open Text

/-- Whether the character is one of the names of hosts: an ASCII letter or digit, a dot or a
hyphen. -/
def isHostChar (c : Char) : Bool := c.isAlphanum || c == '.' || c == '-'

theorem isCoded_of_isHostChar {c : Char} (name : isHostChar c = true) : isCoded c = true := by
  rw [isHostChar, Bool.or_eq_true, Bool.or_eq_true] at name
  rcases name with (name | name) | name
  · simp [isCoded, Percent.isUnreserved, name]
  · simp [isCoded, Percent.isUnreserved, name]
  · simp [isCoded, Percent.isUnreserved, name]

theorem isSmall_of_isHostChar {c : Char} (name : isHostChar c = true) (small : c.isUpper = false) :
    isSmall c = true := by
  have ascii : c.toNat < 0x80 :=
    toNat_of_isPlain (isPlain_of_isCoded (isCoded_of_isHostChar name))
  rw [Bool.eq_false_iff, Ne, isUpper_iff] at small
  simp only [isSmall, Bool.or_eq_true, Bool.and_eq_true, decide_eq_true_eq]
  omega

theorem hostName?_of_small {host : String} (named : host ≠ "")
    (chars : ∀ c ∈ host.toList, isHostChar c = true ∧ c.isUpper = false) :
    Authority.hostName? { host := host.toList, port := [] } = some host := by
  have absent : '%' ∉ host.toList := fun mem => absurd (chars _ mem).1 (by decide)
  have small : lower host.toList = host.toList := by
    apply lower_of_small
    rw [List.all_eq_true]
    intro c mem
    exact isSmall_of_isHostChar (chars c mem).1 (chars c mem).2
  rw [@hostName?_eq _ host.toList none (List.append_nil _).symm absent
    (mt String.toList_eq_nil_iff.mp named), small, Written.signed, List.append_nil,
    String.ofList_toList]

variable {a : Address}

theorem filled_some {text : String} (inhabited : text ≠ "") : filled (some text) = some text := by
  rw [filled, Option.filter_some, if_pos (bne_iff_ne.mpr inhabited)]

theorem filled_of_ne {s : Option String} (inhabited : s ≠ some "") : filled s = s := by
  cases s with
  | none => rfl
  | some text => exact filled_some fun blank => inhabited (by rw [blank])

theorem getD_filled_ne_empty {s : Option String} {fallback : String} (inhabited : fallback ≠ "") :
    (filled s).getD fallback ≠ "" := by
  cases s with
  | none => exact inhabited
  | some text =>
    by_cases blank : text = ""
    · rw [blank]
      exact inhabited
    · rw [filled_some blank]
      exact blank

theorem effectivePort_of_ne (counts : a.port ≠ some 0) : a.effectivePort = a.port.getD 5432 := by
  cases given : a.port with
  | none =>
    rw [effectivePort, given]
    rfl
  | some n =>
    have other : (n != 0) = true := bne_iff_ne.mpr fun zero => counts (by rw [given, zero])
    rw [effectivePort, given, Option.filter_some, if_pos other]
    rfl

theorem effectiveSchema_of_ne (inhabited : a.schema ≠ some "") :
    a.effectiveSchema = a.schema.getD "doc" := by
  rw [effectiveSchema, filled_of_ne inhabited]
  rfl

theorem exists_port (port : ∀ n ∈ a.port, 1 ≤ n ∧ n ≤ 65535) :
    ∃ given : Option Nat, a.port = given.map Int.ofNat ∧ ∀ n ∈ given, n ≠ 0 ∧ n ≤ 65535 := by
  cases written : a.port with
  | none => exact ⟨none, rfl, fun n mem => nomatch mem⟩
  | some n =>
    have bounds := port n written
    refine ⟨some n.toNat, congrArg some (Int.toNat_of_nonneg (by omega)).symm, ?_⟩
    rintro m ⟨⟩
    omega

theorem exists_port_getD (port : ∀ n ∈ a.port, 1 ≤ n ∧ n ≤ 65535) :
    ∃ n : Nat, a.port.getD 5432 = n ∧ n ≠ 0 ∧ n ≤ 65535 := by
  obtain ⟨given, written, bounds⟩ := exists_port port
  rw [written]
  cases given with
  | none => exact ⟨5432, rfl, by decide, by decide⟩
  | some n => exact ⟨n, rfl, bounds n rfl⟩

/-- A schema that is read back from the path of an address: it starts with no slash and has no
character that ends a path or is dropped. -/
structure IsPath (schema : String) : Prop where
  inhabited : schema ≠ ""
  head : schema.toList.head? ≠ some '/'
  chars : ∀ c ∈ schema.toList, c ∉ ['?', '#', '\t', '\r', '\n']

theorem IsPath.read {schema : String} (path : IsPath schema) :
    (Authority.present ((schema.toList.filter isKept).dropWhile (· == '/'))).map String.ofList =
      some schema := by
  have kept : schema.toList.filter isKept = schema.toList := by
    apply filter_kept
    intro c mem
    have other := path.chars c mem
    simp only [List.mem_cons, List.not_mem_nil, or_false, not_or] at other
    simp [isKept, other]
  have whole : schema.toList.dropWhile (· == '/') = schema.toList := by
    cases chars : schema.toList with
    | nil => rfl
    | cons c rest =>
      have other : c ≠ '/' := by
        rintro rfl
        exact path.head (by rw [chars]; rfl)
      rw [List.dropWhile_cons_of_neg (by simpa using other)]
  have inhabited : schema.toList ≠ [] := mt String.toList_eq_nil_iff.mp path.inhabited
  rw [kept, whole, present_of_ne_nil inhabited, Option.map_some, String.ofList_toList]

theorem isPath_effectiveSchema (schema : ∀ s ∈ a.schema, IsPath s) : IsPath a.effectiveSchema := by
  cases given : a.schema with
  | none =>
    rw [effectiveSchema, given]
    exact ⟨by decide, by decide, List.all_iff_forall_prop.mp (by decide)⟩
  | some s =>
    have path := schema s given
    rw [effectiveSchema, given, filled_some path.inhabited]
    exact path

def driverSpelling (a : Address) (port : Nat) : Spelling where
  scheme := "postgresql"
  user := a.effectiveUser
  password := a.password
  host := (a.host.getD "").toList
  port := some port
  schema := some a.effectiveSchema.toList

theorem conninfo_eq (password : a.password ≠ some "") {n : Nat} (port : a.effectivePort = n)
    (counts : n ≠ 0) : a.conninfo = (a.driverSpelling n).text := by
  have user : filled (some a.effectiveUser) = some a.effectiveUser :=
    filled_some (getD_filled_ne_empty (by decide))
  have schema : filled (some a.effectiveSchema) = some a.effectiveSchema :=
    filled_some (getD_filled_ne_empty (by decide))
  have number : (some a.effectivePort).filter (· != 0) = some (n : Int) := by
    rw [port, Option.filter_some, if_pos]
    simpa using counts
  have parts : a.completed.written quote = {
      scheme := "postgresql".toList
      user := some (quote a.effectiveUser, a.password.map quote)
      host := (a.host.getD "").toList
      port := some (portText n)
      schema := some a.effectiveSchema.toList
      query := [] } := by
    simp only [Address.written, completed, user, filled_of_ne password, schema, number,
      Option.map_some]
    rfl
  rw [conninfo, render, parts, Written.text, Written.chars]
  simp [driverSpelling, Spelling.text, Spelling.authorityChars, spelled, authorityOf,
    afterAuthority, Written.userPart]

theorem readable_driverSpelling (password : a.password ≠ some "")
    (host : ∀ s ∈ a.host, ∀ c ∈ s.toList, isHostChar c = true) {n : Nat} (bound : n ≤ 65535)
    (path : IsPath a.effectiveSchema) : (a.driverSpelling n).Readable where
  scheme := show "postgresql" ∈ schemes by decide
  user := getD_filled_ne_empty (by decide)
  password := password
  host := by
    intro c mem
    cases given : a.host with
    | none =>
      rw [driverSpelling, given] at mem
      cases mem
    | some s =>
      rw [driverSpelling, given] at mem
      exact isCoded_of_isHostChar (host s given c mem)
  port := by
    rintro m given
    cases given
    exact bound
  schema := by
    intro c mem
    have other := path.chars c mem
    simp only [List.mem_cons, not_or] at other
    exact ⟨other.1, other.2.1⟩
  query := fun c mem => nomatch mem

/-- The driver's text of an address says all of it but the options, with the defaults filled in. -/
theorem ofText_conninfo {host : String} (password : a.password ≠ some "")
    (given : a.host = some host) (named : host ≠ "")
    (hostChars : ∀ c ∈ host.toList, isHostChar c = true ∧ c.isUpper = false)
    (port : ∀ n ∈ a.port, 1 ≤ n ∧ n ≤ 65535) (schema : ∀ s ∈ a.schema, IsPath s) :
    ofText a.conninfo = .ok {
      scheme := "postgresql"
      username := some ((a.username.filter (· != "")).getD "crate")
      password := a.password
      host := some host
      port := some (a.port.getD 5432)
      schema := some (a.schema.getD "doc")
      query := [] } := by
  obtain ⟨n, number, counts, bound⟩ := exists_port_getD port
  have effective : a.effectivePort = n := by
    rw [← number]
    exact effectivePort_of_ne fun zero => absurd (port 0 zero) (by decide)
  have path := isPath_effectiveSchema schema
  have readable : (a.driverSpelling n).Readable := by
    refine readable_driverSpelling password ?_ bound path
    rintro s held c mem
    rw [given] at held
    cases held
    exact (hostChars c mem).1
  have hostName : Authority.hostName? { host := (a.driverSpelling n).host, port := [] } =
      some host := by
    rw [driverSpelling, given]
    exact hostName?_of_small named hostChars
  have readSchema : (a.driverSpelling n).readSchema = some (a.schema.getD "doc") := by
    rw [← effectiveSchema_of_ne fun empty => (schema "" empty).inhabited rfl]
    exact path.read
  rw [conninfo_eq password effective counts, readable.ofText_text, hostName, readSchema, number]
  rfl

/-- A user and a password full of signs, and a schema that looks like an authority. -/
def signs : Address where
  scheme := "crate"
  username := some "a:b@c/d?e#f%41 [ü😀]\t"
  password := some "::@//%%"
  host := some "db-1.example"
  port := some 6543
  schema := some "x@y:z/%41"

theorem ofText_conninfo_signs :
    ofText signs.conninfo = .ok {
      scheme := "postgresql"
      username := some "a:b@c/d?e#f%41 [ü😀]\t"
      password := some "::@//%%"
      host := some "db-1.example"
      port := some 6543
      schema := some "x@y:z/%41"
      query := [] } ∧
    ofText { signs with username := none, port := none, schema := none }.conninfo = .ok {
      scheme := "postgresql"
      username := some "crate"
      password := some "::@//%%"
      host := some "db-1.example"
      port := some 5432
      schema := some "doc"
      query := [] } := by
  have name : ∀ c ∈ "db-1.example".toList, isHostChar c = true ∧ c.isUpper = false :=
    List.all_iff_forall_prop.mp (by decide)
  constructor
  · refine ofText_conninfo (by decide) rfl (by decide) name ?_ ?_
    · rintro n given
      cases given
      decide
    · rintro s given
      cases given
      exact ⟨by decide, by decide, List.all_iff_forall_prop.mp (by decide)⟩
  · exact ofText_conninfo (by decide) rfl (by decide) name (fun n given => nomatch given)
      fun s given => nomatch given

end SystemCatalog.Address
