import SystemCatalog.Proofs.Acl.Division

/-!
# Letters of default privileges

Decoding takes the signs of arrays and entries away, and names everyone where a token names nobody.
All other characters stay, as many as there were, so that default privileges with other letters give
another answer: `count_eq_of_decode_none`.
-/

namespace SystemCatalog.Acl

/-- The characters that decoding may take away or add. -/
def inconstant : List Char := [',', '"', '=', '/'] ++ everyone.toList

def Entry.chars (e : Entry) : List Char :=
  e.grantee.toList ++ (e.codes.toList ++ (e.grantor.getD "").toList)

def Grants.chars (g : Grants) : List Char :=
  g.entries.flatMap Entry.chars ++ g.malformed.flatMap String.toList

variable {c : Char}

theorem count_unwrap (other : c ≠ '"') (s : List Char) :
    (Text.unwrap '"' '"' s).count c = s.count c := by
  unfold Text.unwrap
  split
  · next wrapped =>
    obtain ⟨long, first, last⟩ := wrapped
    obtain ⟨rest, rfl⟩ := List.head?_eq_some_iff.mp first
    have longer := List.ne_nil_of_length_pos (Nat.le_of_succ_le_succ long)
    rw [List.getLast?_cons_of_ne_nil longer] at last
    rw [List.tail_cons, ← List.dropLast_append_getLast? '"' last]
    simp [other.symm]
  · rfl

theorem count_entries (other : c ≠ '"') (raw : List (List Char)) :
    ((raw.map (Text.unwrap '"' '"')).filter (!·.isEmpty)).flatten.count c =
      raw.flatten.count c := by
  induction raw with
  | nil => rfl
  | cons piece raw ih =>
    rw [List.map_cons, List.flatten_cons, List.count_append, ← ih, ← count_unwrap other piece]
    cases Text.unwrap '"' '"' piece with
    | nil => simp
    | cons first rest =>
      rw [List.filter_cons_of_pos (by simp), List.flatten_cons, List.count_append]

theorem count_intercalate (other : c ≠ ',') (texts : List (List Char)) :
    (List.intercalate [','] texts).count c = texts.flatten.count c := by
  induction texts with
  | nil => rfl
  | cons text texts ih =>
    cases texts with
    | nil => simp
    | cons next more =>
      rw [List.intercalate_cons_cons, List.count_append, List.count_append, ih,
        List.count_singleton, List.flatten_cons, List.count_append]
      simp [other.symm]

theorem Entry.IsOf.count_chars {token : String} {e : Entry} (said : e.IsOf token)
    (constant : c ∉ inconstant) : e.chars.count c = token.toList.count c := by
  simp only [inconstant, List.mem_append, List.mem_cons, List.not_mem_nil, or_false, not_or]
    at constant
  obtain ⟨⟨-, -, equals, slash⟩, everyone⟩ := constant
  -- The spelling of an entry adds an equals sign, and a slash in front of a grantor.
  have spells : ∀ grantee : String, (e.spelled grantee).toList.count c =
      grantee.toList.count c + (e.codes.toList ++ (e.grantor.getD "").toList).count c := by
    intro grantee
    cases found : e.grantor with
    | none => simp [Entry.spelled, found, Ne.symm equals]
    | some grantor =>
      simp [Entry.spelled, found, Ne.symm equals, Ne.symm slash]
  rcases said.spelled with rfl | ⟨nobody, rfl⟩
  · rw [spells, chars, List.count_append]
  · rw [spells, chars, List.count_append, nobody, List.count_eq_zero.mpr everyone]
    rfl

namespace Grants

theorem count_ofTokens (constant : c ∉ inconstant) (tokens : List String) :
    (ofTokens tokens).chars.count c = (tokens.flatMap String.toList).count c := by
  induction tokens with
  | nil => rfl
  | cons token rest ih =>
    rw [chars, List.count_append] at ih
    rw [List.flatMap_cons, List.count_append]
    by_cases equals : '=' ∈ token.toList
    · obtain ⟨e, read⟩ := Entry.ofToken_of_equals equals
      have kept := (Entry.isOf_of_ofToken read).count_chars constant
      simp only [ofTokens, read, chars, List.flatMap_cons, List.count_append]
      omega
    · simp only [ofTokens, Entry.ofToken_of_not_equals equals, chars, List.flatMap_cons,
        List.count_append]
      omega

/-- Without an access list the owner's name is read twice and the letters once. -/
theorem count_decode_none (constant : c ∉ inconstant) (owner codes : String) :
    (decode none owner codes).chars.count c =
      2 * owner.toList.count c + codes.toList.count c := by
  have other : ∀ sign ∈ inconstant, c ≠ sign := fun sign mem eq => constant (eq ▸ mem)
  have joined := intercalate_pieces false ' ' (defaultLine owner.toList codes.toList)
  rw [decode, count_ofTokens constant, Option.getD_none, tokens_defaultArray, List.flatMap_map]
  simp only [String.toList_ofList, List.flatMap_id']
  rw [count_entries (other '"' (by decide)), ← count_intercalate (other ',' (by decide)), joined,
    defaultLine, List.count_append, List.count_cons_of_ne (other '=' (by decide)).symm,
    List.count_append, List.count_cons_of_ne (other '/' (by decide)).symm]
  omega

/-- The letters of default privileges can be told from what is decoded without an access list. -/
theorem count_eq_of_decode_none {owner codes others : String}
    (same : decode none owner codes = decode none owner others) (constant : c ∉ inconstant) :
    codes.toList.count c = others.toList.count c := by
  have first := count_decode_none constant owner codes
  have second := count_decode_none constant owner others
  rw [same] at first
  omega

end Grants

end SystemCatalog.Acl
