import SystemCatalog.Proofs.Address.Literal
import SystemCatalog.Proofs.Address.Reading

/-!
# Hosts in brackets

Reading takes the brackets from the host of an address, and writing does not put them back.  What is
written of an address with an IPv6 host, for the driver or for logs, cannot be read again:
`ofText_rendered`.
-/

namespace SystemCatalog.Address

open Text

variable {s literal : List Char} {c : Char} {text : String} {a : Address}

/-! ### The host of an authority -/

def hostText (s : List Char) : List Char := ((splitLast? '@' s).map (·.2)).getD s

/-- What stands in the brackets of an authority, if its host has brackets. -/
def bracketed? (s : List Char) : Option (List Char) :=
  (splitFirst? '[' (hostText s)).map fun (_, rest) => (Authority.cut ']' rest).1

theorem hostAndPort_ofChars (s : List Char) :
    ((Authority.ofChars s).host, (Authority.ofChars s).port) =
      Authority.hostAndPort (hostText s) := by
  unfold Authority.ofChars hostText
  cases splitLast? '@' s with
  | none => rfl
  | some parts =>
    dsimp only [Option.map_some, Option.getD_some]
    cases splitFirst? ':' parts.1 with
    | none => rfl
    | some user => rfl

theorem host_of_bracketed (bracketed : bracketed? s = some literal) :
    (Authority.ofChars s).host = literal := by
  obtain ⟨⟨before, rest⟩, opening, rfl⟩ := Option.map_eq_some_iff.mp bracketed
  have parts := congrArg Prod.fst (hostAndPort_ofChars s)
  rw [Authority.hostAndPort, opening] at parts
  exact parts

theorem mem_cut {separator : Char} (mem : c ∈ (Authority.cut separator s).1) :
    c ∈ s ∧ c ≠ separator := by
  by_cases some : separator ∈ s
  · obtain ⟨before, after, rfl, absent⟩ := List.eq_append_cons_of_mem some
    rw [Authority.cut, splitFirst?_append absent] at mem
    exact ⟨List.mem_append_left _ mem, fun eq => absent (eq ▸ mem)⟩
  · rw [Authority.cut, splitFirst?_eq_none some] at mem
    exact ⟨mem, fun eq => some (eq ▸ mem)⟩

theorem mem_hostText (mem : c ∈ hostText s) : c ∈ s ∧ c ≠ '@' := by
  unfold hostText at mem
  cases split : splitLast? '@' s with
  | none =>
    rw [split] at mem
    exact ⟨mem, fun eq => splitLast?_eq_none_iff.mp split (eq ▸ mem)⟩
  | some parts =>
    rw [split] at mem
    refine ⟨?_, fun eq => not_mem_of_splitLast? split (eq ▸ mem)⟩
    rw [eq_append_of_splitLast? split]
    exact List.mem_append_right _ (List.mem_cons_of_mem _ mem)

theorem mem_bracketed (bracketed : bracketed? s = some literal) (mem : c ∈ literal) :
    c ∈ s ∧ c ≠ '@' ∧ c ≠ ']' := by
  obtain ⟨⟨before, rest⟩, opening, rfl⟩ := Option.map_eq_some_iff.mp bracketed
  obtain ⟨inside, closing⟩ := mem_cut mem
  have later : c ∈ hostText s := by
    rw [(eq_append_of_splitFirst? opening).1]
    exact List.mem_append_right _ (List.mem_cons_of_mem _ inside)
  exact ⟨(mem_hostText later).1, (mem_hostText later).2, closing⟩

/-! ### The authority of an address that is read -/

theorem mem_splitScheme (mem : c ∈ (splitScheme s).2) : c ∈ s := by
  unfold splitScheme at mem
  split at mem
  · next first scheme rest split =>
    split at mem
    · rw [(eq_append_of_splitFirst? split).1]
      exact List.mem_append_right _ (List.mem_cons_of_mem _ mem)
    · exact mem
  · exact mem

theorem mem_splitAuthority (mem : c ∈ (splitAuthority s).1) : c ∈ s ∧ endsAuthority c = false := by
  unfold splitAuthority at mem
  split at mem
  · next rest =>
    dsimp only at mem
    have inside := List.mem_takeWhile_imp mem
    rw [Bool.not_eq_true'] at inside
    refine ⟨?_, inside⟩
    exact List.mem_cons_of_mem _ (List.mem_cons_of_mem _ ((List.takeWhile_prefix _).subset mem))
  · cases mem

theorem Reads.isHeld (reads : Reads text a) :
    ∀ c ∈ authorityText text.toList, isHeld c = true := by
  intro c mem
  obtain ⟨inside, within⟩ := mem_splitAuthority mem
  have kept : isKept c = true := (List.mem_filter.mp (mem_splitScheme inside)).2
  have plain : isDisguisedSeparator c = false := by
    have none := reads.characters
    unfold Authority.characterComplaint? at none
    split at none
    · cases none
    · next all =>
      rw [Bool.not_eq_true, List.any_eq_false] at all
      rw [Bool.eq_false_iff]
      exact all c mem
  exact isHeld_iff.mpr ⟨kept, within, plain⟩

theorem ofText_of_brackets {f : Fault}
    (wrong : Authority.bracketComplaint? (authorityText text.toList) = some f) :
    ofText text = .error f := by
  rw [authorityText] at wrong
  unfold ofText
  simp only [bind, Except.bind]
  rw [wrong]
  rfl

theorem ofText_of_port {f : Fault}
    (brackets : Authority.bracketComplaint? (authorityText text.toList) = none)
    (characters : Authority.characterComplaint? (authorityText text.toList) = none)
    (known : schemeText text.toList ∈ schemes)
    (wrong : (Authority.ofChars (authorityText text.toList)).portNumber = .error f) :
    ofText text = .error f := by
  have contained : schemes.contains (schemeText text.toList) = true := List.contains_iff_mem.mpr known
  rw [authorityText] at brackets characters wrong
  rw [schemeText] at contained
  unfold ofText
  simp only [bind, Except.bind]
  rw [brackets, characters, contained, wrong]
  rfl

/-! ### Hosts without their brackets -/

theorem isPlain_of_isNumberChar (char : Literal.isNumberChar c = true) :
    isPlain c = true ∧ c ≠ '@' ∧ c ≠ ']' := by
  have each : ∀ n < 0x80, Literal.isNumberChar (Char.ofNat n) = true →
      isPlain (Char.ofNat n) = true ∧ Char.ofNat n ≠ '@' ∧ Char.ofNat n ≠ ']' := by decide
  obtain ⟨n, small, rfl⟩ := exists_ofNat_of_ascii (Literal.toNat_of_isNumberChar char)
  exact each n small char

theorem hostName?_of_isIPv6 {parts : Authority} (version : Literal.isIPv6 parts.host = true) :
    ∃ number zone, parts.host = number ++ Written.signed '%' zone ∧
      Literal.isIPv6Number number = true ∧
      parts.hostName? = some (String.ofList (number.map Char.toLower ++ Written.signed '%' zone)) := by
  obtain ⟨number, zone, written, six⟩ := Literal.isIPv6Number_of_isIPv6 version
  have chars := Literal.isNumberChar_of_isIPv6Number six
  refine ⟨number, zone, written, six, ?_⟩
  have absent : '%' ∉ number := fun mem => absurd (chars _ mem) (by decide)
  have inhabited : number ≠ [] := by
    obtain ⟨before, after, rfl, -⟩ := Literal.colons_of_isIPv6Number six
    simp
  have small : lower number = number.map Char.toLower :=
    lower_ascii fun c mem => Literal.toNat_of_isNumberChar (chars c mem)
  rw [hostName?_eq written absent inhabited, small]

theorem mem_cut_colons (before after rest : List Char) (colon : ':' ∈ after) :
    ':' ∈ (Authority.cut ':' (before ++ ':' :: after ++ rest)).2 := by
  simp only [List.append_assoc, List.cons_append]
  by_cases some : ':' ∈ before
  · obtain ⟨first, second, rfl, absent⟩ := List.eq_append_cons_of_mem some
    simp only [List.append_assoc, List.cons_append]
    rw [Authority.cut, splitFirst?_append absent]
    simp
  · rw [Authority.cut, splitFirst?_append some]
    simp [colon]

theorem portNumber_of_colon {parts : Authority} (colon : ':' ∈ parts.port) :
    parts.portNumber = .error (.badPort (String.ofList parts.port)) := by
  have other : (!parts.port.all Char.isDigit) = true := by
    rw [Bool.not_eq_true', List.all_eq_false]
    exact ⟨':', colon, by decide⟩
  rw [Authority.portNumber, present_of_ne_nil (List.ne_nil_of_mem colon)]
  dsimp only
  rw [if_pos other]

/-- What is found wrong with a host that has lost its brackets, in front of a port: what follows its
first colon is taken for the port. -/
def unbracketed (host : List Char) (port : Option (List Char)) : Fault :=
  if '[' ∈ host then .unbalancedBrackets
  else .badPort (String.ofList (Authority.cut ':' (host ++ Written.signed ':' port)).2)

/-- What is written has a host with two colons and no brackets around it. -/
structure Bare (w : Written) : Prop where
  scheme : String.ofList w.scheme ∈ schemes
  user : ∀ c ∈ Written.userPart w.user, isHeld c = true ∧ c ≠ '[' ∧ c ≠ ']'
  host : ∀ c ∈ w.host, isHeld c = true ∧ c ≠ '@' ∧ c ≠ ']'
  colons : ∃ before after, w.host = before ++ ':' :: after ∧ ':' ∈ after
  port : ∀ c ∈ w.port.getD [], isCoded c = true

namespace Bare

variable {w : Written}

def hostPart (w : Written) : List Char := w.host ++ Written.signed ':' w.port

def authority (w : Written) : List Char := Written.userPart w.user ++ hostPart w

theorem text_eq (w : Written) : w.text =
    String.ofList (spelled (String.ofList w.scheme) (authority w) w.schema
      (if w.query.isEmpty then none else some (Query.encode w.query))) := by
  simp only [Written.text, Written.chars, spelled, authority, hostPart, afterAuthority,
    String.toList_ofList, List.append_assoc]

theorem mem_hostPart (bare : Bare w) (mem : c ∈ hostPart w) :
    isHeld c = true ∧ c ≠ '@' ∧ c ≠ ']' ∧ (c = '[' → c ∈ w.host) := by
  rcases List.mem_append.mp mem with mem | mem
  · obtain ⟨held, sign, closing⟩ := bare.host c mem
    exact ⟨held, sign, closing, fun _ => mem⟩
  rcases mem_signed mem with rfl | mem
  · exact ⟨by decide, by decide, by decide, fun opening => absurd opening (by decide)⟩
  · have coded := bare.port c mem
    have other : ∀ d, isCoded d = false → c ≠ d := by
      rintro d uncoded rfl
      rw [coded] at uncoded
      cases uncoded
    exact ⟨isHeld_of_isPlain (isPlain_of_isCoded coded), other _ (by decide), other _ (by decide),
      fun opening => absurd opening (other _ (by decide))⟩

theorem mem_authority (bare : Bare w) (mem : c ∈ authority w) :
    isHeld c = true ∧ c ≠ ']' ∧ (c = '[' → c ∈ w.host) := by
  rcases List.mem_append.mp mem with mem | mem
  · obtain ⟨held, opening, closing⟩ := bare.user c mem
    exact ⟨held, closing, fun eq => absurd eq opening⟩
  · obtain ⟨held, -, closing, opening⟩ := bare.mem_hostPart mem
    exact ⟨held, closing, opening⟩

theorem isHeld_authority (bare : Bare w) : ∀ c ∈ authority w, isHeld c = true :=
  fun _ mem => (bare.mem_authority mem).1

theorem authorityText_text (bare : Bare w) : authorityText w.text.toList = authority w := by
  rw [text_eq, String.toList_ofList, authorityText_spelled bare.scheme bare.isHeld_authority]

/-- Only brackets of the host are left, and none of them closes. -/
theorem bracketComplaint?_authority (bare : Bare w) :
    Authority.bracketComplaint? (authority w) =
      if '[' ∈ w.host then some .unbalancedBrackets else none := by
  have closing : (authority w).contains ']' = false := by
    rw [Bool.eq_false_iff, Ne, List.contains_iff_mem]
    exact fun mem => (bare.mem_authority mem).2.1 rfl
  by_cases bracket : '[' ∈ w.host
  · have opening : (authority w).contains '[' = true := by
      rw [List.contains_iff_mem]
      exact List.mem_append_right _ (List.mem_append_left _ bracket)
    rw [Authority.bracketComplaint?, opening, closing, if_pos bracket]
  · have opening : (authority w).contains '[' = false := by
      rw [Bool.eq_false_iff, Ne, List.contains_iff_mem]
      exact fun mem => bracket ((bare.mem_authority mem).2.2 rfl)
    rw [Authority.bracketComplaint?, opening, closing, if_neg bracket]

theorem hostText_authority (bare : Bare w) : hostText (authority w) = hostPart w := by
  have absent : '@' ∉ hostPart w := fun mem => (bare.mem_hostPart mem).2.1 rfl
  unfold hostText authority Written.userPart
  cases w.user with
  | none =>
    rw [List.nil_append, splitLast?_eq_none_iff.mpr absent]
    rfl
  | some user =>
    dsimp only
    rw [List.append_assoc, List.singleton_append, splitLast?_append absent]
    rfl

theorem port_authority (bare : Bare w) (free : '[' ∉ w.host) :
    (Authority.ofChars (authority w)).port = (Authority.cut ':' (hostPart w)).2 := by
  have absent : '[' ∉ hostPart w := fun mem => free ((bare.mem_hostPart mem).2.2.2 rfl)
  have parts := congrArg Prod.snd (hostAndPort_ofChars (authority w))
  rw [bare.hostText_authority, Authority.hostAndPort, splitFirst?_eq_none absent] at parts
  exact parts

/-- What follows the first colon of the host is taken for the port, and it has another colon. -/
theorem ofText_text (bare : Bare w) : ofText w.text = .error (unbracketed w.host w.port) := by
  have brackets := bare.bracketComplaint?_authority
  rw [← bare.authorityText_text] at brackets
  unfold unbracketed
  by_cases bracket : '[' ∈ w.host
  · rw [if_pos bracket] at brackets ⊢
    exact ofText_of_brackets brackets
  · rw [if_neg bracket] at brackets ⊢
    obtain ⟨before, after, host, colon⟩ := bare.colons
    have more : ':' ∈ (Authority.cut ':' (hostPart w)).2 := by
      rw [hostPart, host]
      exact mem_cut_colons before after _ colon
    rw [← hostPart, ← bare.port_authority bracket]
    rw [← bare.port_authority bracket] at more
    apply ofText_of_port brackets
    · rw [bare.authorityText_text]
      exact characterComplaint?_of_isHeld bare.isHeld_authority
    · rw [text_eq, String.toList_ofList, schemeText_spelled bare.scheme bare.isHeld_authority]
      exact bare.scheme
    · rw [bare.authorityText_text]
      exact portNumber_of_colon more

end Bare

/-! ### Addresses with a host that had brackets -/

theorem isCoded_toString (n : Int) : ∀ c ∈ (toString n).toList, isCoded c = true := by
  intro c mem
  cases n with
  | ofNat n => exact isCoded_portText n c mem
  | negSucc n =>
    change c ∈ ("-" ++ toString (n + 1)).toList at mem
    rw [String.toList_append] at mem
    rcases List.mem_append.mp mem with sign | mem
    · obtain rfl : c = '-' := List.mem_singleton.mp sign
      decide
    · exact isCoded_portText (n + 1) c mem

theorem secure_userPart {writePassword : String → List Char}
    (secret : ∀ p, Secure (writePassword p)) (user password : Option String) :
    Secure (Written.userPart
      (user.map fun user => (quote user, password.map writePassword))) := by
  intro c mem
  cases user with
  | none => cases mem
  | some user =>
    simp only [Option.map_some, Written.userPart, List.mem_append, List.mem_singleton] at mem
    rcases mem with (mem | mem) | rfl
    · exact secure_quote user c mem
    · cases password with
      | none => cases mem
      | some password =>
        rcases List.mem_cons.mp mem with rfl | mem
        · decide
        · exact secret password c mem
    · decide

/-- The host of the address is an IPv6 address without the brackets it had. -/
structure Version6 (a : Address) (host : List Char) : Prop where
  named : a.host = some (String.ofList host)
  chars : ∀ c ∈ host, isHeld c = true ∧ c ≠ '@' ∧ c ≠ ']'
  colons : ∃ before after, host = before ++ ':' :: after ∧ ':' ∈ after

theorem version6_of_reads (reads : Reads text a)
    (bracketed : bracketed? (authorityText text.toList) = some literal)
    (version : Literal.isIPv6 literal = true) : ∃ host, Version6 a host := by
  obtain rfl := host_of_bracketed bracketed
  obtain ⟨number, zone, written, six, named⟩ := hostName?_of_isIPv6 version
  refine ⟨_, reads.host.trans named, ?_, ?_⟩
  · intro c mem
    rcases List.mem_append.mp mem with mem | mem
    · obtain ⟨d, inside, rfl⟩ := List.mem_map.mp mem
      have char := Literal.isNumberChar_toLower (Literal.isNumberChar_of_isIPv6Number six d inside)
      obtain ⟨plain, others⟩ := isPlain_of_isNumberChar char
      exact ⟨isHeld_of_isPlain plain, others⟩
    · obtain ⟨inside, others⟩ :=
        mem_bracketed bracketed (written ▸ List.mem_append_right number mem)
      exact ⟨reads.isHeld c inside, others⟩
  · obtain ⟨before, after, rfl, colon⟩ := Literal.colons_of_isIPv6Number six
    refine ⟨before.map Char.toLower, after.map Char.toLower ++ Written.signed '%' zone, ?_, ?_⟩
    · rw [List.map_append, List.map_cons, List.append_assoc]
      rfl
    · exact List.mem_append_left _ (List.mem_map.mpr ⟨':', colon, rfl⟩)

theorem ofText_render {host : List Char} {writePassword : String → List Char}
    (known : a.scheme ∈ schemes) (version : Version6 a host)
    (secret : ∀ p, Secure (writePassword p)) :
    ofText (a.render writePassword) = .error
      (unbracketed host ((a.port.filter (· != 0)).map fun n => (toString n).toList)) := by
  have hostChars : (a.written writePassword).host = host := by
    rw [written, version.named, Option.getD_some, String.toList_ofList]
  have bare : Bare (a.written writePassword) := {
    scheme := by
      rw [written, String.ofList_toList]
      exact known
    user := secure_userPart secret (filled a.username) (filled a.password)
    host := by
      rw [hostChars]
      exact version.chars
    colons := by
      rw [hostChars]
      exact version.colons
    port := by
      intro c mem
      rw [written] at mem
      dsimp only at mem
      cases given : a.port.filter (· != 0) with
      | none =>
        rw [given] at mem
        cases mem
      | some n =>
        rw [given] at mem
        exact isCoded_toString n c mem }
  rw [render, bare.ofText_text, hostChars]
  rfl

theorem effectivePort_ne_zero (a : Address) : a.effectivePort ≠ 0 := by
  unfold effectivePort
  cases given : a.port.filter (· != 0) with
  | none => decide
  | some n =>
    exact bne_iff_ne.mp (Option.filter_eq_some_iff.mp given).2

/-- Neither what is written for the driver nor what is written for logs can be read, if the host of
an address is an IPv6 address in brackets. -/
theorem ofText_rendered (read : ofText text = .ok a)
    (bracketed : bracketed? (authorityText text.toList) = some literal)
    (version : Literal.isIPv6 literal = true) :
    ∃ host, a.host = some host ∧
      ofText a.conninfo = .error
        (unbracketed host.toList (some (toString a.effectivePort).toList)) ∧
      ofText a.redacted = .error
        (unbracketed host.toList ((a.port.filter (· != 0)).map fun n => (toString n).toList)) := by
  have reads := reads_of_ofText read
  obtain ⟨host, six⟩ := version6_of_reads reads bracketed version
  have port : (some a.effectivePort).filter (· != 0) = some a.effectivePort := by
    rw [Option.filter_some, if_pos (bne_iff_ne.mpr a.effectivePort_ne_zero)]
  have driver : Version6 a.completed host := ⟨six.named, six.chars, six.colons⟩
  have logged : Version6 { a with query := a.maskedQuery } host := ⟨six.named, six.chars, six.colons⟩
  refine ⟨String.ofList host, six.named, ?_, ?_⟩
  · have known : a.completed.scheme ∈ schemes := show "postgresql" ∈ schemes by decide
    have ended := ofText_render known driver secure_quote
    rw [completed, port] at ended
    rw [String.toList_ofList]
    exact ended
  · rw [String.toList_ofList]
    exact ofText_render reads.scheme logged fun _ => secure_mask

def zoned : String := "crate://u:p@[FE80::1%Eth0]:5433/metrics"

def zonedAddress : Address where
  scheme := "crate"
  username := some "u"
  password := some "p"
  host := some "fe80::1%Eth0"
  port := some 5433
  schema := some "metrics"

theorem ofText_rendered_zoned : ofText zoned = .ok zonedAddress ∧
    ofText zonedAddress.conninfo = .error (.badPort ":1%Eth0:5433") ∧
    ofText zonedAddress.redacted = .error (.badPort ":1%Eth0:5433") := by
  have read : ofText zoned = .ok zonedAddress := by rfl
  have bracketed : bracketed? (authorityText zoned.toList) = some "FE80::1%Eth0".toList := by decide
  obtain ⟨host, named, driver, logged⟩ := ofText_rendered read bracketed (by decide)
  obtain rfl := Option.some.inj named
  exact ⟨read, driver, logged⟩

/-- An IPv6 host is not always read back from what is written, not even the loopback address. -/
theorem not_always_read_back : ¬ ∀ text a literal, ofText text = .ok a →
    bracketed? (authorityText text.toList) = some literal → Literal.isIPv6 literal = true →
    (∀ n ∈ a.port, 1 ≤ n ∧ n ≤ 65535) →
    (∃ b, ofText a.conninfo = .ok b ∧ b.host = a.host ∧ b.port = some a.effectivePort ∧
      b.username = some a.effectiveUser ∧ b.password = a.password ∧
      b.schema = some a.effectiveSchema) ∧
    ∃ b, ofText a.redacted = .ok b ∧ b.host = a.host ∧ b.port = a.port := by
  intro always
  let address : Address :=
    { scheme := "crate", username := some "u", host := some "::1", schema := some "doc" }
  have read : ofText "crate://u@[::1]/doc" = .ok address := by rfl
  obtain ⟨⟨b, again, -⟩, -⟩ := always "crate://u@[::1]/doc" address "::1".toList read (by decide)
    (by decide) fun n mem => nomatch mem
  have written : address.conninfo = "postgresql://u@::1:5432/doc" := by decide
  have failed : ofText "postgresql://u@::1:5432/doc" = .error (.badPort ":1:5432") := by rfl
  rw [written, failed] at again
  cases again

end SystemCatalog.Address
