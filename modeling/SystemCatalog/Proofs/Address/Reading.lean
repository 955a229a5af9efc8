import Mathlib.Data.List.TakeWhile
import SystemCatalog.Address.Reader
import SystemCatalog.Proofs.Address.Query
import SystemCatalog.Proofs.Text.Digit
import SystemCatalog.Proofs.Text.LetterCase

/-!
# Reading written addresses

An address that is written from its parts falls into the same parts when it is read:
`ofText_spelled`.
-/

namespace SystemCatalog.Address

open Text

variable {scheme : String} {authority : List Char} {schema query : Option (List Char)}

/-! ### What an address is read from -/

def schemeText (s : List Char) : String := String.ofList (splitScheme (clean s)).1

def authorityText (s : List Char) : List Char := (splitAuthority (splitScheme (clean s)).2).1

def queryText (s : List Char) : List Char :=
  (splitPath (splitAuthority (splitScheme (clean s)).2).2).2

/-- The authority of the text is read without a complaint, and so are its scheme and its port. -/
structure Reads (text : String) (a : Address) : Prop where
  brackets : Authority.bracketComplaint? (authorityText text.toList) = none
  characters : Authority.characterComplaint? (authorityText text.toList) = none
  scheme : a.scheme ∈ schemes
  host : a.host = (Authority.ofChars (authorityText text.toList)).hostName?
  port : (Authority.ofChars (authorityText text.toList)).portNumber = .ok a.port
  query : a.query = Query.ofChars (queryText text.toList)

theorem refuse_ok {complaint : Option Fault} (ok : refuse complaint = .ok ()) :
    complaint = none := by
  cases complaint with
  | none => rfl
  | some f => cases ok

theorem reads_of_ofText {text : String} {a : Address} (read : ofText text = .ok a) :
    Reads text a := by
  unfold ofText at read
  simp only [bind, Except.bind] at read
  split at read
  · cases read
  next brackets =>
  split at read
  · cases read
  next characters =>
  split at read
  · cases read
  next known =>
  rw [Bool.not_eq_true', Bool.not_eq_false, List.contains_iff_mem] at known
  split at read
  · cases read
  next port =>
  cases read
  exact {
    brackets := refuse_ok brackets
    characters := refuse_ok characters
    scheme := known
    host := rfl
    port := port
    query := rfl }

theorem nodup_query {text : String} {a : Address} (read : ofText text = .ok a) :
    (a.query.map (·.1)).Nodup := by
  rw [(reads_of_ofText read).query]
  exact Query.nodup_ofChars _

theorem lookup_query {text : String} {a : Address} (read : ofText text = .ok a) (name : String) :
    a.query.lookup name = (Query.items (queryText text.toList)).lookup name := by
  rw [(reads_of_ofText read).query, Query.lookup_ofChars]

/-! ### The scheme -/

def isKept (c : Char) : Bool := c != '\t' && c != '\n' && c != '\r'

theorem Query.Coding.isKept_of_mem_spell (coding : Query.Coding) {options : List (String × String)}
    {c : Char} (mem : c ∈ coding.spell options) : isKept c = true ∧ c ≠ '#' := by
  rcases coding.mem_spell mem with safe | rfl | rfl
  · have tab : c ≠ '\t' := Query.ne_of_isSafe safe (by decide)
    have feed : c ≠ '\n' := Query.ne_of_isSafe safe (by decide)
    have back : c ≠ '\r' := Query.ne_of_isSafe safe (by decide)
    have number : c ≠ '#' := Query.ne_of_isSafe safe (by decide)
    exact ⟨by simp [isKept, tab, feed, back], number⟩
  · exact ⟨by decide, by decide⟩
  · exact ⟨by decide, by decide⟩

theorem filter_kept {s : List Char} (kept : ∀ c ∈ s, isKept c = true) : s.filter isKept = s :=
  List.filter_eq_self.mpr kept

theorem clean_append (known : scheme ∈ schemes) (rest : List Char) :
    clean (scheme.toList ++ rest) = scheme.toList ++ rest.filter isKept := by
  simp only [schemes, List.mem_cons, List.not_mem_nil, or_false] at known
  rcases known with rfl | rfl | rfl
  · rfl
  · rfl
  · rfl

theorem splitScheme_append (known : scheme ∈ schemes) (rest : List Char) :
    splitScheme (scheme.toList ++ ':' :: rest) = (scheme.toList, rest) := by
  simp only [schemes, List.mem_cons, List.not_mem_nil, or_false] at known
  rcases known with rfl | rfl | rfl
  · rfl
  · rfl
  · rfl

/-! ### The authority and what follows it -/

/-- Whether an authority may have the character outside of brackets and is not ended by it. -/
def isPlain (c : Char) : Bool :=
  Percent.isUnreserved c || c == '%' || c == ':' || c == '@'

theorem ne_of_isPlain {c d : Char} (plain : isPlain c = true) (other : isPlain d = false) :
    c ≠ d := by
  rintro rfl
  rw [plain] at other
  cases other

theorem isKept_of_isPlain {c : Char} (plain : isPlain c = true) : isKept c = true := by
  have tab : c ≠ '\t' := ne_of_isPlain plain (by decide)
  have feed : c ≠ '\n' := ne_of_isPlain plain (by decide)
  have back : c ≠ '\r' := ne_of_isPlain plain (by decide)
  simp [isKept, tab, feed, back]

theorem toNat_of_isPlain {c : Char} (plain : isPlain c = true) : c.toNat < 0x80 := by
  simp only [isPlain, Bool.or_eq_true, beq_iff_eq] at plain
  rcases plain with ((free | rfl) | rfl) | rfl
  · exact Percent.toNat_of_isUnreserved free
  · decide
  · decide
  · decide

theorem isDisguisedSeparator_of_ascii {c : Char} (ascii : c.toNat < 0x80) :
    isDisguisedSeparator c = false := by
  have bounds : (disguisedSeparators.all fun range => 0x80 ≤ range.1) = true := by decide
  rw [Bool.eq_false_iff, isDisguisedSeparator, Ne, covers_eq_true_iff]
  rintro ⟨range, mem, low, -⟩
  have bound := List.all_eq_true.mp bounds range mem
  rw [decide_eq_true_eq] at bound
  omega

/-- Whether an authority can have the character: it counts, does not end the authority and is not
taken for a separator. -/
def isHeld (c : Char) : Bool := isKept c && !endsAuthority c && !isDisguisedSeparator c

theorem isHeld_iff {c : Char} : isHeld c = true ↔
    isKept c = true ∧ endsAuthority c = false ∧ isDisguisedSeparator c = false := by
  simp only [isHeld, Bool.and_eq_true, Bool.not_eq_true', and_assoc]

theorem isHeld_of_isPlain {c : Char} (plain : isPlain c = true) : isHeld c = true := by
  have slash : c ≠ '/' := ne_of_isPlain plain (by decide)
  have question : c ≠ '?' := ne_of_isPlain plain (by decide)
  have number : c ≠ '#' := ne_of_isPlain plain (by decide)
  rw [isHeld_iff]
  refine ⟨isKept_of_isPlain plain, ?_, isDisguisedSeparator_of_ascii (toNat_of_isPlain plain)⟩
  simp [endsAuthority, slash, question, number]

/-- Whether the characters may stand in an authority that has no brackets. -/
def Secure (s : List Char) : Prop := ∀ c ∈ s, isHeld c = true ∧ c ≠ '[' ∧ c ≠ ']'

theorem secure_append {s t : List Char} (first : Secure s) (second : Secure t) :
    Secure (s ++ t) := by
  intro c mem
  exact (List.mem_append.mp mem).elim (first c) (second c)

theorem bracketComplaint?_of_secure (secure : Secure authority) :
    Authority.bracketComplaint? authority = none := by
  have opening : authority.contains '[' = false := by
    rw [Bool.eq_false_iff, Ne, List.contains_iff_mem]
    exact fun mem => (secure _ mem).2.1 rfl
  have closing : authority.contains ']' = false := by
    rw [Bool.eq_false_iff, Ne, List.contains_iff_mem]
    exact fun mem => (secure _ mem).2.2 rfl
  rw [Authority.bracketComplaint?, opening, closing]

theorem characterComplaint?_of_isHeld (held : ∀ c ∈ authority, isHeld c = true) :
    Authority.characterComplaint? authority = none := by
  have none : ¬ authority.any isDisguisedSeparator = true := by
    intro any
    obtain ⟨c, mem, disguised⟩ := List.any_eq_true.mp any
    rw [(isHeld_iff.mp (held c mem)).2.2] at disguised
    cases disguised
  rw [Authority.characterComplaint?, if_neg none]

def afterAuthority (schema query : Option (List Char)) : List Char :=
  Written.signed '/' schema ++ Written.signed '?' query

theorem takeWhile_afterAuthority (schema query : Option (List Char)) :
    (afterAuthority schema query).takeWhile (fun c => !endsAuthority c) = [] := by
  cases schema with
  | some schema => rfl
  | none =>
    cases query with
    | some query => rfl
    | none => rfl

theorem splitAuthority_append (held : ∀ c ∈ authority, isHeld c = true) :
    splitAuthority ('/' :: '/' :: (authority ++ afterAuthority schema query)) =
      (authority, afterAuthority schema query) := by
  have first : (authority ++ afterAuthority schema query).takeWhile (fun c => !endsAuthority c) =
      authority := by
    rw [List.takeWhile_append_of_pos, takeWhile_afterAuthority, List.append_nil]
    intro c mem
    rw [(isHeld_iff.mp (held c mem)).2.1]
    rfl
  rw [splitAuthority, first, List.drop_left]

theorem cut_append {separator : Char} {before : List Char} (absent : separator ∉ before)
    (after : Option (List Char)) :
    Authority.cut separator (before ++ Written.signed separator after) =
      (before, after.getD []) := by
  cases after with
  | some after => rw [Authority.cut, Written.signed, splitFirst?_append absent]; rfl
  | none => rw [Authority.cut, Written.signed, List.append_nil, splitFirst?_eq_none absent]; rfl

theorem mem_signed {sign c : Char} {s : Option (List Char)} (mem : c ∈ Written.signed sign s) :
    c = sign ∨ c ∈ s.getD [] := by
  cases s with
  | none => cases mem
  | some s => exact List.mem_cons.mp mem

theorem splitPath_afterAuthority (path : ∀ c ∈ schema.getD [], c ≠ '?' ∧ c ≠ '#')
    (options : '#' ∉ query.getD []) :
    splitPath (afterAuthority schema query) =
      (Written.signed '/' schema, query.getD []) := by
  have whole : (afterAuthority schema query).takeWhile (· != '#') =
      afterAuthority schema query := by
    rw [List.takeWhile_eq_self_iff]
    intro c mem
    rcases List.mem_append.mp mem with before | after
    · rcases mem_signed before with rfl | inside
      · rfl
      · simpa using (path c inside).2
    · rcases mem_signed after with rfl | inside
      · rfl
      · have other : c ≠ '#' := fun eq => options (eq ▸ inside)
        simpa using other
  have absent : '?' ∉ Written.signed '/' schema := by
    intro mem
    rcases mem_signed mem with sign | inside
    · cases sign
    · exact (path _ inside).1 rfl
  rw [splitPath, whole, afterAuthority, cut_append absent]

def spelled (scheme : String) (authority : List Char) (schema query : Option (List Char)) :
    List Char :=
  scheme.toList ++ "://".toList ++ authority ++ afterAuthority schema query

theorem filter_signed {sign : Char} (kept : isKept sign = true) (s : Option (List Char)) :
    (Written.signed sign s).filter isKept = Written.signed sign (s.map (·.filter isKept)) := by
  cases s with
  | none => rfl
  | some s => exact List.filter_cons_of_pos kept

theorem clean_spelled (known : scheme ∈ schemes) (held : ∀ c ∈ authority, isHeld c = true)
    (schema query : Option (List Char)) :
    clean (spelled scheme authority schema query) = scheme.toList ++ ':' :: '/' :: '/' ::
      (authority ++ afterAuthority (schema.map (·.filter isKept)) (query.map (·.filter isKept))) := by
  have kept : authority.filter isKept = authority :=
    filter_kept fun c mem => (isHeld_iff.mp (held c mem)).1
  have signs : "://".toList.filter isKept = [':', '/', '/'] := by decide
  simp only [spelled, List.append_assoc]
  rw [clean_append known, List.filter_append, List.filter_append, kept, signs, afterAuthority,
    List.filter_append, filter_signed rfl, filter_signed rfl]
  rfl

theorem splitScheme_spelled (known : scheme ∈ schemes) (held : ∀ c ∈ authority, isHeld c = true)
    (schema query : Option (List Char)) :
    splitScheme (clean (spelled scheme authority schema query)) = (scheme.toList, '/' :: '/' ::
      (authority ++ afterAuthority (schema.map (·.filter isKept)) (query.map (·.filter isKept)))) := by
  rw [clean_spelled known held, splitScheme_append known]

theorem schemeText_spelled (known : scheme ∈ schemes) (held : ∀ c ∈ authority, isHeld c = true) :
    schemeText (spelled scheme authority schema query) = scheme := by
  rw [schemeText, splitScheme_spelled known held, String.ofList_toList]

theorem authorityText_spelled (known : scheme ∈ schemes) (held : ∀ c ∈ authority, isHeld c = true) :
    authorityText (spelled scheme authority schema query) = authority := by
  rw [authorityText, splitScheme_spelled known held, splitAuthority_append held]

theorem ofText_spelled (known : scheme ∈ schemes) (secure : Secure authority)
    (path : ∀ c ∈ schema.getD [], c ≠ '?' ∧ c ≠ '#')
    (options : ∀ c ∈ query.getD [], isKept c = true ∧ c ≠ '#') :
    ofText (String.ofList (spelled scheme authority schema query)) =
      (Authority.ofChars authority).portNumber.map fun port =>
        { scheme
          username := userText (Authority.ofChars authority).username
          password := userText (Authority.ofChars authority).password
          host := (Authority.ofChars authority).hostName?
          port
          schema := (Authority.present
            (((schema.getD []).filter isKept).dropWhile (· == '/'))).map String.ofList
          query := Query.ofChars (query.getD []) } := by
  have held : ∀ c ∈ authority, isHeld c = true := fun c mem => (secure c mem).1
  have kept : query.map (·.filter isKept) = query := by
    cases query with
    | none => rfl
    | some query => exact congrArg some (filter_kept fun c mem => (options c mem).1)
  have parts : splitPath (afterAuthority (schema.map (·.filter isKept)) query) =
      (Written.signed '/' (schema.map (·.filter isKept)), query.getD []) := by
    apply splitPath_afterAuthority
    · intro c mem
      cases schema with
      | none => cases mem
      | some schema => exact path c ((List.mem_filter.mp mem).1)
    · intro mem
      exact (options _ mem).2 rfl
  have contained : schemes.contains scheme = true := List.contains_iff_mem.mpr known
  rw [ofText, String.toList_ofList, splitScheme_spelled known held, kept]
  dsimp only
  rw [splitAuthority_append held]
  dsimp only
  rw [bracketComplaint?_of_secure secure, characterComplaint?_of_isHeld held, parts,
    String.ofList_toList, contained]
  cases (Authority.ofChars authority).portNumber with
  | error f => rfl
  | ok port =>
    cases schema with
    | none => rfl
    | some schema => rfl

/-! ### The parts of an authority -/

/-- Whether texts in percent form have the character; host names and ports have no others. -/
def isCoded (c : Char) : Bool := Percent.isUnreserved c || c == '%'

theorem not_mem_of_isCoded {s : List Char} {d : Char} (coded : ∀ c ∈ s, isCoded c = true)
    (other : isCoded d = false) : d ∉ s := by
  intro mem
  rw [coded d mem] at other
  cases other

theorem isCoded_quote (s : String) : ∀ c ∈ quote s, isCoded c = true := by
  intro c mem
  rcases Percent.mem_encode mem with kept | free | rfl
  · cases kept
  · simp [isCoded, free]
  · rfl

theorem isPlain_of_isCoded {c : Char} (coded : isCoded c = true) : isPlain c = true := by
  rw [isPlain, ← isCoded, coded]
  rfl

theorem secure_of_isCoded {s : List Char} (coded : ∀ c ∈ s, isCoded c = true) : Secure s := by
  intro c mem
  have plain := isPlain_of_isCoded (coded c mem)
  exact ⟨isHeld_of_isPlain plain, ne_of_isPlain plain (by decide), ne_of_isPlain plain (by decide)⟩

theorem secure_quote (s : String) : Secure (quote s) := secure_of_isCoded (isCoded_quote s)

theorem secure_mask : Secure Redaction.mask.toList := by
  intro c mem
  have asterisk : c = '*' := by simpa [Redaction.mask] using mem
  rw [asterisk]
  decide

theorem secure_signed {sign : Char} (free : Secure [sign]) {s : Option (List Char)}
    (secure : Secure (s.getD [])) : Secure (Written.signed sign s) := by
  cases s with
  | none => exact secure
  | some s => exact secure_append free secure

def authorityOf (user : List Char) (password : Option (List Char)) (host : List Char)
    (port : Option (List Char)) : List Char :=
  user ++ Written.signed ':' password ++ '@' :: (host ++ Written.signed ':' port)

section Authority

variable {user host : List Char} {password port : Option (List Char)}

theorem secure_authorityOf (first : Secure user) (second : Secure (password.getD []))
    (third : ∀ c ∈ host, isCoded c = true) (fourth : ∀ c ∈ port.getD [], isCoded c = true) :
    Secure (authorityOf user password host port) := by
  have colon : Secure [':'] := by simpa [Secure] using (by decide : isHeld ':' = true)
  have sign : Secure ['@'] := by simpa [Secure] using (by decide : isHeld '@' = true)
  apply secure_append (secure_append first (secure_signed colon second))
  apply secure_append sign (secure_append (secure_of_isCoded third) ?_)
  exact secure_signed colon (secure_of_isCoded fourth)

theorem ofChars_authorityOf (first : ∀ c ∈ user, isCoded c = true)
    (third : ∀ c ∈ host, isCoded c = true) (fourth : ∀ c ∈ port.getD [], isCoded c = true) :
    Authority.ofChars (authorityOf user password host port) =
      { username := some user, password, host, port := port.getD [] } := by
  have absent : ∀ d, isCoded d = false → d ≠ ':' → d ∉ host ++ Written.signed ':' port := by
    intro d other sign mem
    rcases List.mem_append.mp mem with mem | mem
    · exact not_mem_of_isCoded third other mem
    · exact (mem_signed mem).elim sign (not_mem_of_isCoded fourth other)
  have bracket : '[' ∉ host ++ Written.signed ':' port := absent '[' (by decide) (by decide)
  have sign : '@' ∉ host ++ Written.signed ':' port := absent '@' (by decide) (by decide)
  have split : Authority.hostAndPort (host ++ Written.signed ':' port) = (host, port.getD []) := by
    rw [Authority.hostAndPort, splitFirst?_eq_none bracket]
    exact cut_append (not_mem_of_isCoded third (by decide)) port
  have colon : ':' ∉ user := not_mem_of_isCoded first (by decide)
  rw [Authority.ofChars, authorityOf, splitLast?_append sign]
  dsimp only
  rw [split]
  cases password with
  | some password => rw [Written.signed, splitFirst?_append colon]
  | none => rw [Written.signed, List.append_nil, splitFirst?_eq_none colon]

end Authority

theorem present_of_ne_nil {s : List Char} (inhabited : s ≠ []) :
    Authority.present s = some s := by
  rw [Authority.present, List.isEmpty_eq_false_iff.mpr inhabited, if_neg (by decide)]

theorem userText_quote {s : String} (some : s ≠ "") :
    userText (Option.some (quote s)) = Option.some s := by
  have written : quote s ≠ [] := by
    rw [quote, Ne, Percent.encode_eq_nil rfl]
    intro nothing
    exact some (String.toList_eq_nil_iff.mp nothing)
  rw [userText, Option.bind_some, present_of_ne_nil written, quote, Option.map_some,
    Percent.decode_encode rfl, String.ofList_toList]

/-- The letters of a host are small in front of the zone. -/
theorem hostName?_eq {parts : Authority} {number : List Char} {zone : Option (List Char)}
    (written : parts.host = number ++ Written.signed '%' zone) (absent : '%' ∉ number)
    (inhabited : number ≠ []) :
    parts.hostName? = some (String.ofList (lower number ++ Written.signed '%' zone)) := by
  have whole : number ++ Written.signed '%' zone ≠ [] := List.append_ne_nil_of_left_ne_nil inhabited _
  have first : (number ++ Written.signed '%' zone).takeWhile (· != '%') = number := by
    have sign : (Written.signed '%' zone).takeWhile (· != '%') = [] := by
      cases zone with
      | none => rfl
      | some zone => rfl
    rw [List.takeWhile_append_of_pos, sign, List.append_nil]
    intro c mem
    rw [bne_iff_ne]
    exact fun eq => absent (eq ▸ mem)
  rw [Authority.hostName?, written, present_of_ne_nil whole, Option.map_some]
  dsimp only
  rw [first, List.drop_left]

def portText (n : Nat) : List Char := (toString n).toList

theorem isDigit_portText (n : Nat) : ∀ c ∈ portText n, c.isDigit = true := by
  intro c mem
  rw [portText, Nat.toString_eq_repr, Nat.toList_repr] at mem
  exact Nat.isDigit_of_mem_toDigits (by decide) (by decide) mem

theorem isCoded_portText (n : Nat) : ∀ c ∈ portText n, isCoded c = true := by
  intro c mem
  simp [isCoded, Percent.isUnreserved, Char.isAlphanum, isDigit_portText n c mem]

theorem portNumber_portText {a : Authority} {n : Nat} (written : a.port = portText n)
    (bound : n ≤ 65535) : a.portNumber = .ok (some (n : Int)) := by
  have chars : portText n = Nat.toDigits 10 n := Nat.toList_repr
  have some : portText n ≠ [] := chars ▸ Nat.toDigits_ne_nil
  have digits : (portText n).all Char.isDigit = true := List.all_eq_true.mpr (isDigit_portText n)
  have short : (portText n).length ≤ 5 := by
    rw [chars, Nat.length_toDigits_le_iff (by decide) (by decide)]
    omega
  have value : Number.evaluate (portText n) = .ok n := by
    rw [Number.evaluate, if_neg (by rw [Number.digitLimit]; omega), chars, natOfDigits_toDigits]
  rw [Authority.portNumber, written, present_of_ne_nil some]
  dsimp only
  rw [digits, value]
  simp [bound]

/-! ### The whole address -/

theorem isCoded_portTexts (port : Option Nat) :
    ∀ c ∈ (port.map portText).getD [], isCoded c = true := by
  cases port with
  | none => exact fun c mem => nomatch mem
  | some n => exact isCoded_portText n

/-- An address with a user in percent form is read back, with the host in small letters; of what
stands in the place of the password only a bracket or a sign that ends the authority does harm. -/
theorem ofText_authorityOf {user : String} {password : Option (List Char)} {host : List Char}
    {port : Option Nat} (known : scheme ∈ schemes) (inhabited : user ≠ "")
    (secret : Secure (password.getD [])) (coded : ∀ c ∈ host, isCoded c = true)
    (bound : ∀ n ∈ port, n ≤ 65535) (path : ∀ c ∈ schema.getD [], c ≠ '?' ∧ c ≠ '#')
    (options : ∀ c ∈ query.getD [], isKept c = true ∧ c ≠ '#') :
    ofText (String.ofList (spelled scheme
        (authorityOf (quote user) password host (port.map portText)) schema query)) =
      .ok {
        scheme
        username := some user
        password := userText password
        host := Authority.hostName? { host, port := [] }
        port := port.map Int.ofNat
        schema := (Authority.present
          (((schema.getD []).filter isKept).dropWhile (· == '/'))).map String.ofList
        query := Query.ofChars (query.getD []) } := by
  have digits := isCoded_portTexts port
  have parts := @ofChars_authorityOf _ _ password _ (isCoded_quote user) coded digits
  have number : (Authority.ofChars
      (authorityOf (quote user) password host (port.map portText))).portNumber =
        .ok (port.map Int.ofNat) := by
    rw [parts]
    cases given : port with
    | none => rfl
    | some n => exact portNumber_portText rfl (bound n given)
  have secure := secure_authorityOf (secure_quote user) secret coded digits
  rw [ofText_spelled known secure path options, number, parts]
  dsimp only [Except.map]
  rw [userText_quote inhabited]
  rfl

structure Spelling where
  scheme : String
  user : String
  password : Option String := none
  host : List Char
  port : Option Nat := none
  schema : Option (List Char) := none
  query : Option (List Char) := none

namespace Spelling

variable {w : Spelling}

def authorityChars (w : Spelling) : List Char :=
  authorityOf (quote w.user) (w.password.map quote) w.host (w.port.map portText)

def text (w : Spelling) : String :=
  String.ofList (spelled w.scheme w.authorityChars w.schema w.query)

/-- The schema in the path: what follows its slashes, if anything does. -/
def readSchema (w : Spelling) : Option String :=
  (Authority.present (((w.schema.getD []).filter isKept).dropWhile (· == '/'))).map String.ofList

/-- Nothing in the parts is taken for a sign between them. -/
structure Readable (w : Spelling) : Prop where
  scheme : w.scheme ∈ schemes
  user : w.user ≠ ""
  password : w.password ≠ some ""
  host : ∀ c ∈ w.host, isCoded c = true
  port : ∀ n ∈ w.port, n ≤ 65535
  schema : ∀ c ∈ w.schema.getD [], c ≠ '?' ∧ c ≠ '#'
  query : ∀ c ∈ w.query.getD [], isKept c = true ∧ c ≠ '#'

theorem userText_password (w : Spelling) (password : w.password ≠ some "") :
    userText (w.password.map quote) = w.password := by
  cases given : w.password with
  | none => rfl
  | some text => exact userText_quote fun blank => password (by rw [given, blank])

theorem secure_password (w : Spelling) : Secure ((w.password.map quote).getD []) := by
  cases w.password with
  | none => exact fun c mem => nomatch mem
  | some password => exact secure_quote password

/-- An address is read back from its written parts, with the host in small letters. -/
theorem Readable.ofText_text (readable : w.Readable) :
    ofText w.text = .ok {
      scheme := w.scheme
      username := some w.user
      password := w.password
      host := Authority.hostName? { host := w.host, port := [] }
      port := w.port.map Int.ofNat
      schema := w.readSchema
      query := Query.ofChars (w.query.getD []) } := by
  rw [text, authorityChars, ofText_authorityOf readable.scheme readable.user w.secure_password
    readable.host readable.port readable.schema readable.query,
    w.userText_password readable.password]
  rfl

end Spelling

end SystemCatalog.Address
