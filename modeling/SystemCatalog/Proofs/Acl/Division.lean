import Mathlib.Data.List.Forall2
import SystemCatalog.Proofs.Acl.Default

/-!
# Tokens and entries

Decoding an access list loses no token and no character.  A token without an equals sign is
malformed; any other is an entry, from which the token can be spelled again (`decode_divides`).
-/

namespace SystemCatalog.Acl

/-- The privileges of the letters in a row: what is no star stands for one, which may be passed on
if a star comes right after it. -/
def lettersOf (codes : List Char) : List (Privilege × Bool) :=
  (codes.zipIdx.filter fun (c, _) => c ≠ passOn).map fun (c, i) =>
    (Privilege.ofCode c, codes[i + 1]? == some passOn)

namespace Entry

def spelled (e : Entry) (grantee : String) : String :=
  grantee ++ "=" ++ e.codes ++
    match e.grantor with
    | none => ""
    | some grantor => "/" ++ grantor

/-- Whether an entry says what a token says.  A token without the name of a grantee is for everyone;
of several equals signs and slashes the last ones count. -/
structure IsOf (token : String) (e : Entry) : Prop where
  spelled : token = e.spelled e.grantee ∨ e.grantee = everyone ∧ token = e.spelled ""
  named : e.grantee ≠ ""
  codes_equals : '=' ∉ e.codes.toList
  grantor_plain : ∀ name ∈ e.grantor, '=' ∉ name.toList ∧ '/' ∉ name.toList
  codes_slash : e.grantor = none → '/' ∉ e.codes.toList
  privileges : e.privileges = lettersOf e.codes.toList

end Entry

/-! ### Letters -/

theorem decodeCodes_zipIdx (front codes : List Char) :
    decodeCodes codes = ((codes.zipIdx front.length).filter fun (c, _) => c ≠ passOn).map
      fun (c, i) => (Privilege.ofCode c, (front ++ codes)[i + 1]? == some passOn) := by
  induction codes generalizing front with
  | nil => rfl
  | cons c rest ih =>
    have next : (front ++ c :: rest)[front.length + 1]? = rest.head? := by
      rw [List.getElem?_append_right (by omega), Nat.add_sub_cancel_left, List.getElem?_cons_succ,
        List.head?_eq_getElem?]
    have later := ih (front ++ [c])
    rw [List.length_append, List.length_singleton, List.append_assoc, List.singleton_append]
      at later
    rw [decodeCodes, List.zipIdx_cons, later]
    by_cases star : c = passOn
    · simp [star]
    · simp [star, next]

theorem decodeCodes_eq (codes : List Char) : decodeCodes codes = lettersOf codes :=
  decodeCodes_zipIdx [] codes

example : decodeCodes "*a**r*".toList = [(.insert, true), (.select, true)] := by decide

/-! ### Tokens -/

namespace Entry

theorem isOf_make (grantee : List Char) {codes : List Char} (grantor : Option (List Char))
    (codes_equals : '=' ∉ codes) (grantor_plain : ∀ name ∈ grantor, '=' ∉ name ∧ '/' ∉ name)
    (codes_slash : grantor = none → '/' ∉ codes) :
    IsOf (String.ofList (grantee ++ '=' :: (codes ++
      match grantor with
      | none => []
      | some name => '/' :: name))) (make grantee codes grantor) where
  spelled := by
    cases grantee with
    | nil =>
      refine Or.inr ⟨rfl, String.toList_inj.mp ?_⟩
      cases grantor <;> simp [Entry.spelled, make]
    | cons c rest =>
      refine Or.inl (String.toList_inj.mp ?_)
      cases grantor <;> simp [Entry.spelled, make]
  named := by
    cases grantee with
    | nil => exact show everyone ≠ "" by decide
    | cons c rest => exact fun empty => by simpa [make] using congrArg String.toList empty
  codes_equals := by simpa [make] using codes_equals
  grantor_plain := by simpa [make] using grantor_plain
  codes_slash := by simpa [make] using codes_slash
  privileges := by simp [make, decodeCodes_eq]

theorem isOf_of_ofToken {token : String} {e : Entry} (read : ofToken token = .ok e) :
    e.IsOf token := by
  obtain ⟨⟨grantee, rest⟩, first, made⟩ := Option.map_eq_some_iff.mp (ofToken_ok read)
  have whole := Text.eq_append_of_splitLast? first
  have equals := Text.not_mem_of_splitLast? first
  obtain rfl : token = String.ofList (grantee ++ '=' :: rest) := by
    rw [← whole, String.ofList_toList]
  dsimp only at made
  split at made
  · next codes grantor second =>
    obtain rfl := Text.eq_append_of_splitLast? second
    simp only [List.mem_append, List.mem_cons, not_or] at equals
    obtain rfl := made
    exact isOf_make grantee (some grantor) equals.1
      (by simpa using ⟨equals.2.2, Text.not_mem_of_splitLast? second⟩) (by simp)
  · next absent =>
    obtain rfl := made
    have slash := Text.splitLast?_eq_none_iff.mp absent
    simpa using isOf_make grantee none equals (by simp) fun _ => slash

theorem ofToken_of_equals {token : String} (equals : '=' ∈ token.toList) :
    ∃ e, ofToken token = .ok e := by
  have divides : Text.splitLast? '=' token.toList ≠ none := fun absent =>
    Text.splitLast?_eq_none_iff.mp absent equals
  obtain ⟨parts, cut⟩ := Option.ne_none_iff_exists'.mp divides
  exact ⟨_, by rw [ofToken, ofChars?, cut, Option.map_some]⟩

theorem ofToken_of_not_equals {token : String} (equals : '=' ∉ token.toList) :
    ofToken token = .error (.malformedEntry token) := by
  rw [ofToken, ofChars?, Text.splitLast?_eq_none_iff.mpr equals, Option.map_none]

end Entry

/-! ### Access lists -/

namespace Grants

theorem malformed_ofTokens (tokens : List String) :
    (ofTokens tokens).malformed = tokens.filter fun token => '=' ∉ token.toList := by
  induction tokens with
  | nil => rfl
  | cons token rest ih =>
    by_cases equals : '=' ∈ token.toList
    · obtain ⟨e, read⟩ := Entry.ofToken_of_equals equals
      simp [ofTokens, read, equals, ih]
    · simp [ofTokens, Entry.ofToken_of_not_equals equals, equals, ih]

theorem entries_ofTokens (tokens : List String) :
    List.Forall₂ Entry.IsOf (tokens.filter fun token => '=' ∈ token.toList)
      (ofTokens tokens).entries := by
  induction tokens with
  | nil => exact .nil
  | cons token rest ih =>
    by_cases equals : '=' ∈ token.toList
    · obtain ⟨e, read⟩ := Entry.ofToken_of_equals equals
      simpa [ofTokens, read, equals] using ⟨Entry.isOf_of_ofToken read, ih⟩
    · simpa [ofTokens, Entry.ofToken_of_not_equals equals, equals] using ih

/-- Of the tokens of any text those without an equals sign are the malformed ones, in their order,
and the others are the entries, in theirs.  A token cannot fail in any other way than by being
malformed. -/
theorem decode_divides (text owner defaultPrivileges : String) :
    (decode (some text) owner defaultPrivileges).malformed =
        (tokens (some text)).filter (fun token => '=' ∉ token.toList) ∧
      List.Forall₂ Entry.IsOf ((tokens (some text)).filter fun token => '=' ∈ token.toList)
        (decode (some text) owner defaultPrivileges).entries ∧
      ∀ token, (∃ e, Entry.ofToken token = .ok e) ∨
        Entry.ofToken token = .error (.malformedEntry token) := by
  refine ⟨malformed_ofTokens _, entries_ofTokens _, fun token => ?_⟩
  by_cases equals : '=' ∈ token.toList
  · exact Or.inl (Entry.ofToken_of_equals equals)
  · exact Or.inr (Entry.ofToken_of_not_equals equals)

end Grants

end SystemCatalog.Acl
