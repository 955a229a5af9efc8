import Mathlib.Data.Bool.AllAny
import SystemCatalog.Proofs.Address.RoundTrip

/-!
# Reading what logs get

The address that is written for logs is read back with the mask in the place of the password and of
every sensitive option, and everything else as it was: `ofText_redacted`.
-/

namespace SystemCatalog.Address

open Text

variable {a : Address}

theorem filter_port {port : Option Nat} (counts : ∀ n ∈ port, n ≠ 0) :
    (((port.map Int.ofNat).filter (· != 0)).map fun n => (toString n).toList) =
      port.map portText := by
  cases port with
  | none => rfl
  | some n =>
    have other : (Int.ofNat n != 0) = true := by simpa using counts n rfl
    rw [Option.map_some, Option.filter_some, if_pos other]
    rfl

def queryChars (options : List (String × String)) : Option (List Char) :=
  if options.isEmpty then none else some (Query.encode options)

theorem getD_queryChars (options : List (String × String)) :
    (queryChars options).getD [] = (Query.Coding.form true).spell options := by
  cases options with
  | nil => rfl
  | cons option options => rw [Query.Coding.spell_form]; rfl

theorem redacted_eq {user : String} {port : Option Nat} (named : a.username = some user)
    (inhabited : user ≠ "") (password : a.password ≠ some "") (given : a.port = port.map Int.ofNat)
    (counts : ∀ n ∈ port, n ≠ 0) (schema : a.schema ≠ some "") :
    a.redacted = String.ofList (spelled a.scheme
      (authorityOf (quote user) (a.password.map fun _ => Redaction.mask.toList)
        (a.host.getD "").toList (port.map portText))
      (a.schema.map String.toList) (queryChars a.maskedQuery)) := by
  rw [redacted, render, Written.text]
  simp only [Address.written, named, filled_some inhabited, filled_of_ne password,
    filled_of_ne schema, given, filter_port counts]
  simp [Written.chars, spelled, authorityOf, afterAuthority, Written.userPart, queryChars]

theorem readSchema_of_isPath {schema : Option String} (path : ∀ s ∈ schema, IsPath s) :
    (Authority.present
      ((((schema.map String.toList).getD []).filter isKept).dropWhile (· == '/'))).map
        String.ofList = schema := by
  cases schema with
  | none => rfl
  | some s => exact (path s rfl).read

theorem userText_mask (password : Option String) :
    userText (password.map fun _ => Redaction.mask.toList) = password.map fun _ => "***" := by
  cases password with
  | none => rfl
  | some _ => rfl

/-- Masking keeps the names of options, and it leaves none without a value. -/
theorem ofChars_maskedQuery (distinct : (a.query.map (·.1)).Nodup)
    (values : ∀ o ∈ a.query, o.2 ≠ "") :
    Query.ofChars ((queryChars a.maskedQuery).getD []) = a.maskedQuery := by
  have names : a.maskedQuery.map (·.1) = a.query.map (·.1) := by
    rw [maskedQuery, Redaction.maskEntries, List.map_map]
    rfl
  have filled : ∀ o ∈ a.maskedQuery, (o.2 != "") = true := by
    intro o mem
    obtain ⟨option, drawn, rfl⟩ := List.mem_map.mp mem
    dsimp only
    split
    · decide
    · exact bne_iff_ne.mpr (values option drawn)
  rw [getD_queryChars, Query.ofChars_spell _ (names ▸ distinct), List.filter_eq_self.mpr filled]

/-- What logs say of an address is all of it but the password and the sensitive options, and that
there are these. -/
theorem ofText_redacted {user host : String} (known : a.scheme ∈ schemes)
    (named : a.username = some user) (inhabited : user ≠ "") (password : a.password ≠ some "")
    (given : a.host = some host) (hostNamed : host ≠ "")
    (hostChars : ∀ c ∈ host.toList, isHostChar c = true ∧ c.isUpper = false)
    (port : ∀ n ∈ a.port, 1 ≤ n ∧ n ≤ 65535) (schema : ∀ s ∈ a.schema, IsPath s)
    (distinct : (a.query.map (·.1)).Nodup) (values : ∀ o ∈ a.query, o.2 ≠ "") :
    ofText a.redacted = .ok { a with
      password := a.password.map fun _ => "***"
      query := a.query.map fun o => (o.1, if Redaction.isSensitive o.1 then "***" else o.2) } := by
  obtain ⟨n, number, bounds⟩ := exists_port port
  have schemaNamed : a.schema ≠ some "" := fun blank => (schema "" blank).inhabited rfl
  have hostText : (a.host.getD "").toList = host.toList := by rw [given, Option.getD_some]
  -- The mask is written as it is: its asterisks are no signs of an authority.
  have secret : Secure ((a.password.map fun _ => Redaction.mask.toList).getD []) := by
    cases a.password with
    | none => exact fun c mem => nomatch mem
    | some password => exact secure_mask
  have path : ∀ c ∈ (a.schema.map String.toList).getD [], c ≠ '?' ∧ c ≠ '#' := by
    intro c mem
    cases written : a.schema with
    | none =>
      rw [written] at mem
      cases mem
    | some s =>
      rw [written] at mem
      have other := (schema s written).chars c mem
      simp only [List.mem_cons, not_or] at other
      exact ⟨other.1, other.2.1⟩
  have options : ∀ c ∈ (queryChars a.maskedQuery).getD [], isKept c = true ∧ c ≠ '#' := by
    intro c mem
    rw [getD_queryChars] at mem
    exact Query.Coding.isKept_of_mem_spell _ mem
  rw [redacted_eq named inhabited password number (fun n mem => (bounds n mem).1) schemaNamed,
    hostText, ofText_authorityOf known inhabited secret
      (fun c mem => isCoded_of_isHostChar (hostChars c mem).1) (fun n mem => (bounds n mem).2) path
      options,
    userText_mask, hostName?_of_small hostNamed hostChars, readSchema_of_isPath schema,
    ofChars_maskedQuery distinct values, ← named, ← given, ← number]
  rfl

/-- Options without a name and with signs of queries in names and values, two of them sensitive. -/
def secretive : Address where
  scheme := "postgres"
  username := some "a:b@c*"
  password := some "p"
  host := some "db-1.example"
  port := some 4200
  schema := some "x@y:z/%41;p"
  query := [("a b&c=d", "#+* ü"), ("", "v"), ("Api_Key", "s&=*"), ("*%2A", " "),
    ("SSLpassword", "+")]

theorem ofText_redacted_secretive :
    ofText secretive.redacted = .ok { secretive with
      password := some "***"
      query := [("a b&c=d", "#+* ü"), ("", "v"), ("Api_Key", "***"), ("*%2A", " "),
        ("SSLpassword", "***")] } := by
  have path : ∀ s ∈ secretive.schema, IsPath s := by
    rintro s held
    cases held
    exact ⟨by decide, by decide, List.all_iff_forall_prop.mp (by decide)⟩
  have port : ∀ n ∈ secretive.port, 1 ≤ n ∧ n ≤ 65535 := by
    rintro n held
    cases held
    decide
  exact ofText_redacted (by decide) rfl (by decide) (by decide) rfl (by decide)
    (List.all_iff_forall_prop.mp (by decide)) port path (by decide)
    (List.all_iff_forall_prop.mp (by decide))

end SystemCatalog.Address
