import Mathlib.Data.List.Basic
import SystemCatalog.Proofs.Acl.Array
import SystemCatalog.Proofs.Acl.Rows

/-!
# Default privileges

A missing access list stands for the privileges that an owner grants itself.  They are written as an
array and read back, with the owner's name unquoted in it: `decode_none_iff` says for which names
the owner gets them.
-/

namespace SystemCatalog.Acl

def Entry.ofOwner (owner codes : String) : Entry where
  grantee := owner
  grantor := some owner
  privileges := codes.toList.map fun c => (Privilege.ofCode c, false)
  codes

/-- Whether a name can stand unquoted in an array, before the letters and after them: it holds no
equals sign and no slash, is not itself in quotes, and has commas, if any, only between double
quotes that are closed again. -/
structure Unambiguous (name : List Char) : Prop where
  equals : '=' ∉ name
  slash : '/' ∉ name
  bare : ¬(name.head? = some '"' ∧ name.getLast? = some '"')
  commas : ',' ∉ name ∨ ∃ last, pass false ' ' name = some (false, last)

/-- The letters of privileges that are not passed on, as they are written by default. -/
def IsCodes (codes : List Char) : Prop := ∀ c ∈ codes, c ∉ [passOn, '=', '/', '"', ',']

instance (codes : List Char) : Decidable (IsCodes codes) :=
  List.decidableBAll (· ∉ [passOn, '=', '/', '"', ',']) codes

/-- What stands between the braces of the default array. -/
def defaultLine (owner codes : List Char) : List Char := owner ++ '=' :: (codes ++ '/' :: owner)

variable {owner codes : List Char}

theorem IsCodes.not_mem (plain : IsCodes codes) {c : Char}
    (special : c ∈ [passOn, '=', '/', '"', ',']) : c ∉ codes :=
  fun mem => plain c mem special

theorem toList_defaultArray (owner codes : String) :
    (Grants.defaultArray owner codes).toList =
      '\x7b' :: (defaultLine owner.toList codes.toList ++ ['\x7d']) := by
  simp [Grants.defaultArray, defaultLine]

/-! ### Commas and quotes -/

theorem exists_pass {s : List Char} (commas : ',' ∉ s) (quoted : Bool) (previous : Char) :
    ∃ after, pass quoted previous s = some after := by
  induction s generalizing quoted previous with
  | nil => exact ⟨_, rfl⟩
  | cons c s ih =>
    have kept : ¬(c = ',' ∧ quoted = false) := by
      rintro ⟨rfl, -⟩
      exact commas List.mem_cons_self
    rw [pass, if_neg kept]
    exact ih (fun mem => commas (List.mem_cons_of_mem _ mem)) _ _

/-- Of the character before a text only matters whether it is a backslash. -/
theorem pass_congr {s : List Char} (inhabited : s ≠ []) (quoted : Bool) {previous other : Char}
    (first : previous ≠ '\\') (second : other ≠ '\\') :
    pass quoted previous s = pass quoted other s := by
  cases s with
  | nil => exact absurd rfl inhabited
  | cons c s => simp [pass, first, second]

/-- Where no comma separates whether quotes are open before the text or not, there is none. -/
theorem not_mem_of_pass {s : List Char} {quoted : Bool} {previous : Char} {a b : Bool × Char}
    (first : pass quoted previous s = some a) (second : pass (!quoted) previous s = some b) :
    ',' ∉ s := by
  induction s generalizing quoted previous with
  | nil => simp
  | cons c s ih =>
    simp only [pass, Option.ite_none_left_eq_some] at first second
    have other : c ≠ ',' := by
      rintro rfl
      cases quoted with
      | false => exact first.1 ⟨rfl, rfl⟩
      | true => exact second.1 ⟨rfl, rfl⟩
    have rest : ',' ∉ s := by
      by_cases toggles : c = '"' ∧ previous ≠ '\\'
      · rw [if_pos toggles] at first second
        exact ih first.2 second.2
      · rw [if_neg toggles] at first second
        exact ih first.2 second.2
    simp [other.symm, rest]

theorem pass_codes (plain : IsCodes codes) (quoted : Bool) (last : Char) :
    pass quoted last ('=' :: (codes ++ ['/'])) = some (quoted, '/') := by
  have quotes : '"' ∉ '=' :: (codes ++ ['/']) := by
    simpa using plain.not_mem (c := '"') (by decide)
  have commas : ',' ∉ '=' :: (codes ++ ['/']) := by
    simpa using plain.not_mem (c := ',') (by decide)
  rw [pass_plain quotes fun _ => commas, ← List.cons_append, List.getLastD_concat]

/-- The name stands before the letters and after them, with quotes open there as they are after the
first time. -/
theorem pass_defaultLine (plain : IsCodes codes) (inhabited : owner ≠ []) :
    pass false ' ' (defaultLine owner codes) =
      (pass false ' ' owner).bind fun (quoted, _) => pass quoted ' ' owner := by
  have line : defaultLine owner codes = owner ++ (('=' :: (codes ++ ['/'])) ++ owner) := by
    simp [defaultLine]
  rw [line, pass_append]
  congr 1
  funext ⟨quoted, last⟩
  show pass quoted last (('=' :: (codes ++ ['/'])) ++ owner) = pass quoted ' ' owner
  rw [pass_append, pass_codes plain]
  exact pass_congr inhabited quoted (by decide) (by decide)

theorem exists_pass_defaultLine_iff (plain : IsCodes codes) (inhabited : owner ≠ []) :
    (∃ after, pass false ' ' (defaultLine owner codes) = some after) ↔
      ',' ∉ owner ∨ ∃ last, pass false ' ' owner = some (false, last) := by
  rw [pass_defaultLine plain inhabited]
  constructor
  · rintro ⟨after, passed⟩
    obtain ⟨⟨quoted, last⟩, first, second⟩ := Option.bind_eq_some_iff.mp passed
    cases quoted with
    | false => exact Or.inr ⟨last, first⟩
    | true => exact Or.inl (not_mem_of_pass first second)
  · rintro (commas | ⟨last, closed⟩)
    · obtain ⟨⟨quoted, last⟩, first⟩ := exists_pass commas false ' '
      obtain ⟨after, second⟩ := exists_pass commas quoted ' '
      exact ⟨after, by rw [first]; exact second⟩
    · exact ⟨(false, last), by rw [closed]; exact closed⟩

/-! ### The entry of the owner -/

theorem decodeCodes_plain (plain : passOn ∉ codes) :
    decodeCodes codes = codes.map fun c => (Privilege.ofCode c, false) := by
  induction codes with
  | nil => rfl
  | cons c rest ih =>
    have letter : c ≠ passOn := fun eq => plain (by simp [eq])
    have others : passOn ∉ rest := fun mem => plain (List.mem_cons_of_mem _ mem)
    have next : rest.head? ≠ some passOn := fun eq => others (List.mem_of_head? eq)
    simp [decodeCodes, letter, next, ih others]

theorem ofChars?_defaultLine (plain : IsCodes codes) (inhabited : owner ≠ [])
    (equals : '=' ∉ owner) (slash : '/' ∉ owner) :
    Entry.ofChars? (defaultLine owner codes) =
      some (Entry.ofOwner (String.ofList owner) (String.ofList codes)) := by
  have rest : '=' ∉ codes ++ '/' :: owner := by
    simp [plain.not_mem (c := '=') (by decide), equals]
  have letters := decodeCodes_plain (plain.not_mem (c := passOn) (by decide))
  rw [Entry.ofChars?, defaultLine, Text.splitLast?_append rest, Option.map_some]
  dsimp only
  rw [Text.splitLast?_append slash]
  simp [Entry.make, Entry.ofOwner, inhabited, letters]

/-- Only the default array's own text is read as the owner's entry, unless the name stands for
everyone. -/
theorem eq_defaultLine {token : List Char} {owner codes : String} (other : owner ≠ everyone)
    (read : Entry.ofChars? token = some (.ofOwner owner codes)) :
    token = defaultLine owner.toList codes.toList ∧ '=' ∉ owner.toList ∧ '/' ∉ owner.toList := by
  obtain ⟨⟨grantee, rest⟩, first, made⟩ := Option.map_eq_some_iff.mp read
  have whole := Text.eq_append_of_splitLast? first
  have equals := Text.not_mem_of_splitLast? first
  have named : ∀ (letters : List Char) (grantor : Option (List Char)),
      Entry.make grantee letters grantor = .ofOwner owner codes →
      grantee = owner.toList ∧ letters = codes.toList ∧ grantor.map String.ofList = some owner := by
    intro letters grantor eq
    simp only [Entry.make, Entry.ofOwner, Entry.mk.injEq] at eq
    obtain ⟨name, from_, -, rfl⟩ := eq
    refine ⟨?_, String.toList_ofList.symm, from_⟩
    split at name
    · exact absurd name.symm other
    · rw [← name, String.toList_ofList]
  dsimp only at made
  split at made
  · next letters grantor second =>
    obtain ⟨rfl, rfl, name⟩ := named _ _ made
    obtain rfl : String.ofList grantor = owner := by simpa using name
    rw [String.toList_ofList] at *
    have tail := Text.eq_append_of_splitLast? second
    rw [tail] at whole equals
    refine ⟨whole, ?_, Text.not_mem_of_splitLast? second⟩
    simp only [List.mem_append, List.mem_cons, not_or] at equals
    exact equals.2.2
  · obtain ⟨-, -, none⟩ := named _ _ made
    cases none

/-! ### The default array -/

theorem unwrap_defaultLine_iff (inhabited : owner ≠ []) :
    Text.unwrap '"' '"' (defaultLine owner codes) = defaultLine owner codes ↔
      ¬(owner.head? = some '"' ∧ owner.getLast? = some '"') := by
  have first : (defaultLine owner codes).head? = owner.head? :=
    List.head?_append_of_ne_nil _ inhabited
  have last : (defaultLine owner codes).getLast? = owner.getLast? := by
    have line : defaultLine owner codes = (owner ++ '=' :: (codes ++ ['/'])) ++ owner := by
      simp [defaultLine]
    rw [line, List.getLast?_append_of_ne_nil _ inhabited]
  have long : 2 ≤ (defaultLine owner codes).length := by
    simp only [defaultLine, List.length_append, List.length_cons]
    omega
  rw [Text.unwrap, first, last]
  split
  · next wrapped =>
    refine ⟨fun same => ?_, fun bare => absurd wrapped.2 bare⟩
    have shorter := congrArg List.length same
    simp only [List.length_dropLast, List.length_tail] at shorter
    omega
  · next bare => exact ⟨fun _ wrapped => bare ⟨long, wrapped⟩, fun _ => rfl⟩

theorem tokens_defaultArray (owner codes : String) :
    tokens (some (Grants.defaultArray owner codes)) =
      (((pieces false ' ' (defaultLine owner.toList codes.toList)).map
        (Text.unwrap '"' '"')).filter (!·.isEmpty)).map String.ofList := by
  rw [tokens, Option.getD_some, toList_defaultArray, entries, if_neg (by simp),
    rawEntries_braces _ (by decide)]

theorem tokens_unambiguous {owner codes : String} (named : owner ≠ "")
    (plain : IsCodes codes.toList) (clear : Unambiguous owner.toList) :
    tokens (some (Grants.defaultArray owner codes)) =
      [String.ofList (defaultLine owner.toList codes.toList)] := by
  have inhabited : owner.toList ≠ [] := by simpa using named
  obtain ⟨⟨quoted, last⟩, passed⟩ :=
    (exists_pass_defaultLine_iff plain inhabited).mpr clear.commas
  have single := pieces_append passed []
  have line : defaultLine owner.toList codes.toList ≠ [] := by simp [defaultLine]
  rw [List.append_nil] at single
  rw [tokens_defaultArray, single]
  simp [pieces, extend, (unwrap_defaultLine_iff inhabited).mpr clear.bare, line]

theorem Grants.ofTokens_eq_singleton {tokens : List String} {e : Entry}
    (h : ofTokens tokens = ⟨[e], []⟩) : ∃ token, tokens = [token] ∧ Entry.ofToken token = .ok e := by
  have none : ∀ {rest : List String}, ofTokens rest = ⟨[], []⟩ → rest = [] := by
    intro rest h
    cases rest with
    | nil => rfl
    | cons token rest =>
      rw [ofTokens] at h
      split at h <;> simp at h
  cases tokens with
  | nil => simp [ofTokens] at h
  | cons token rest =>
    rw [ofTokens] at h
    split at h
    · next entry read =>
      simp only [Grants.mk.injEq, List.cons.injEq] at h
      obtain ⟨⟨rfl, entries⟩, malformed⟩ := h
      have empty : rest = [] := none (by rw [← entries, ← malformed])
      exact ⟨token, by rw [empty], read⟩
    · simp at h

theorem Entry.ofToken_ok {token : String} {e : Entry} (h : ofToken token = .ok e) :
    ofChars? token.toList = some e := by
  unfold ofToken at h
  split at h
  · next read =>
    cases h
    exact read
  · cases h

/-- The owner gets the default privileges only if its name is unambiguous. -/
theorem unambiguous_of_decode {owner codes : String} (named : owner ≠ "")
    (plain : IsCodes codes.toList)
    (h : Grants.decode none owner codes = ⟨[.ofOwner owner codes], []⟩) :
    Unambiguous owner.toList := by
  by_cases all : owner = everyone
  · subst all
    exact ⟨by decide, by decide, by decide, Or.inl (by decide)⟩
  have inhabited : owner.toList ≠ [] := by simpa using named
  obtain ⟨token, single, read⟩ := Grants.ofTokens_eq_singleton h
  rw [Option.getD_none, tokens_defaultArray] at single
  obtain ⟨whole, equals, slash⟩ := eq_defaultLine all (Entry.ofToken_ok read)
  have mem : token ∈ (((pieces false ' ' (defaultLine owner.toList codes.toList)).map
      (Text.unwrap '"' '"')).filter (!·.isEmpty)).map String.ofList := by
    rw [single]
    exact List.mem_cons_self
  obtain ⟨chars, kept, rfl⟩ := List.mem_map.mp mem
  obtain ⟨piece, among, unwrapped⟩ := List.mem_map.mp (List.mem_filter.mp kept).1
  rw [String.toList_ofList] at whole
  -- The token is as long as the line, so that no comma has separated and no quote was taken away.
  have long : (defaultLine owner.toList codes.toList).length ≤ piece.length := by
    rw [← whole, ← unwrapped]
    unfold Text.unwrap
    split
    · simp only [List.length_dropLast, List.length_tail]
      omega
    · exact Nat.le_refl _
  have joined := intercalate_pieces false ' ' (defaultLine owner.toList codes.toList)
  have alone : pieces false ' ' (defaultLine owner.toList codes.toList) = [piece] := by
    apply eq_singleton_of_length among
    rwa [joined]
  rw [alone, List.intercalate_singleton] at joined
  refine ⟨equals, slash, ?_, ?_⟩
  · apply (unwrap_defaultLine_iff inhabited).mp
    rw [← joined, unwrapped, whole, joined]
  · apply (exists_pass_defaultLine_iff plain inhabited).mp
    exact pass_of_pieces (by rw [alone]; rfl)

theorem decode_unambiguous {owner codes : String} (named : owner ≠ "")
    (plain : IsCodes codes.toList) (clear : Unambiguous owner.toList) :
    Grants.decode none owner codes = ⟨[.ofOwner owner codes], []⟩ := by
  have inhabited : owner.toList ≠ [] := by simpa using named
  have read := ofChars?_defaultLine plain inhabited clear.equals clear.slash
  rw [String.ofList_toList, String.ofList_toList] at read
  rw [Grants.decode, Option.getD_none, tokens_unambiguous named plain clear]
  simp [Grants.ofTokens, Entry.ofToken, read]

/-- Without an access list an owner has its default privileges, and nobody has any others, exactly
if the owner's name is unambiguous. -/
theorem Grants.decode_none_iff {owner codes : String} (named : owner ≠ "")
    (plain : IsCodes codes.toList) :
    (decode none owner codes = ⟨[.ofOwner owner codes], []⟩ ↔ Unambiguous owner.toList) ∧
      (Unambiguous owner.toList → ∀ (catalog schema : Option String) (table : String) (row : Row),
        row ∈ (decode none owner codes).rows catalog schema table ↔
          ∃ c ∈ codes.toList, row =
            ⟨catalog, schema, table, some owner, owner, Privilege.ofCode c, false⟩) := by
  refine ⟨⟨unambiguous_of_decode named plain, decode_unambiguous named plain⟩, ?_⟩
  intro clear catalog schema table row
  obtain ⟨_, _, _, grantor, grantee, privilege, grantable⟩ := row
  rw [decode_unambiguous named plain clear, mem_rows]
  simp only [List.mem_singleton, exists_eq_left, Entry.ofOwner, List.mem_map, Prod.mk.injEq,
    Row.mk.injEq]
  constructor
  · rintro ⟨rfl, rfl, rfl, ⟨c, mem, rfl, rfl⟩, rfl, rfl⟩
    exact ⟨c, mem, rfl, rfl, rfl, rfl, rfl, rfl, rfl⟩
  · rintro ⟨c, mem, rfl, rfl, rfl, rfl, rfl, rfl, rfl⟩
    exact ⟨rfl, rfl, rfl, ⟨c, mem, rfl, rfl⟩, rfl, rfl⟩

/-- A name with a comma between quotes stands in the array as it is. -/
theorem Grants.decode_none_iff_quoted :
    "x\"a,b\"" ≠ "" ∧ IsCodes "arwdDxt".toList ∧
      decode none "x\"a,b\"" "arwdDxt" = ⟨[.ofOwner "x\"a,b\"" "arwdDxt"], []⟩ ∧
      ⟨none, none, "t", some "x\"a,b\"", "x\"a,b\"", .truncate, false⟩ ∈
        (decode none "x\"a,b\"" "arwdDxt").rows none none "t" := by
  have named : "x\"a,b\"" ≠ "" := by decide
  have plain : IsCodes "arwdDxt".toList := by decide
  have clear : Unambiguous "x\"a,b\"".toList :=
    ⟨by decide, by decide, by decide, Or.inr ⟨'"', by decide⟩⟩
  obtain ⟨granted, rows⟩ := decode_none_iff named plain
  exact ⟨named, plain, granted.mpr clear, (rows clear _ _ _ _).mpr ⟨'D', by decide, rfl⟩⟩

/-- With a comma outside of quotes, another role gets the privileges of the owner. -/
theorem Grants.decode_none_comma :
    decode none "a,b" "r" = ⟨[⟨"b", some "a", [(.select, false)], "r"⟩], ["a", "b"]⟩ ∧
      decode none "a,b" "r" ≠ ⟨[.ofOwner "a,b" "r"], []⟩ := by
  have read : decode none "a,b" "r" =
      ⟨[⟨"b", some "a", [(.select, false)], "r"⟩], ["a", "b"]⟩ := by rfl
  refine ⟨read, ?_⟩
  rw [read]
  simp

end SystemCatalog.Acl
