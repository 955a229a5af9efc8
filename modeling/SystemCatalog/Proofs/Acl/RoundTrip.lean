import Mathlib.Data.Bool.AllAny
import SystemCatalog.Acl.Item
import SystemCatalog.Proofs.Acl.Array

/-!
# Reading written access lists

`decode_written` shows that decoding an access list gives back what was written, whatever commas,
equals signs and slashes the names hold.
-/

namespace SystemCatalog.Acl

/-! ### Letters -/

namespace Clause

theorem head?_codes {codes : List (Char × Bool)} (plain : ∀ code ∈ codes, code.1 ≠ passOn) :
    (codes.flatMap code).head? ≠ some passOn := by
  cases codes with
  | nil => simp
  | cons first rest =>
    obtain ⟨letter, passed⟩ := first
    have letterPlain : letter ≠ passOn := plain (letter, passed) (by simp)
    cases passed <;> simpa [code] using letterPlain

theorem decodeCodes_codes {codes : List (Char × Bool)} (plain : ∀ code ∈ codes, code.1 ≠ passOn) :
    decodeCodes (codes.flatMap code) =
      codes.map fun (letter, passed) => (Privilege.ofCode letter, passed) := by
  induction codes with
  | nil => rfl
  | cons first rest ih =>
    obtain ⟨letter, passed⟩ := first
    have letterPlain : letter ≠ passOn := plain (letter, passed) (by simp)
    have restPlain : ∀ code ∈ rest, code.1 ≠ passOn :=
      fun code mem => plain code (List.mem_cons_of_mem _ mem)
    cases passed with
    | true => simp [code, decodeCodes, letterPlain, ih restPlain]
    | false => simp [code, decodeCodes, letterPlain, ih restPlain, head?_codes restPlain]

theorem mem_code {c : Char} {letter : Char × Bool} (h : c ∈ code letter) :
    c = letter.1 ∨ c = passOn := by
  obtain ⟨letter, passed⟩ := letter
  cases passed with
  | true => simpa [code] using h
  | false => exact Or.inl (by simpa [code] using h)

theorem codeChars_plain (clause : Clause) : ∀ c ∈ clause.codeChars, c ∉ ['=', '/', '"', '\\'] := by
  intro c mem
  obtain ⟨letter, member, within⟩ := List.mem_flatMap.mp mem
  have plain := clause.codes_plain letter member
  rcases mem_code within with rfl | rfl
  · simp only [List.mem_cons, not_or] at plain ⊢
    exact plain.2
  · decide

theorem grantorChars_plain (clause : Clause) : ∀ c ∈ clause.grantorChars, c ∉ ['=', '"', '\\'] := by
  intro c mem
  unfold grantorChars at mem
  split at mem
  · exact absurd mem (by simp)
  · next name named =>
    rcases List.mem_cons.mp mem with rfl | within
    · decide
    · have plain := clause.grantor_plain name named c within
      simp only [List.mem_cons, not_or] at plain ⊢
      exact ⟨plain.1, plain.2.2⟩

/-! ### Entries -/

theorem line_plain (clause : Clause) : ∀ c ∈ clause.line, c ≠ '"' ∧ c ≠ '\\' := by
  intro c mem
  rcases List.mem_append.mp mem with grantee | rest
  · exact clause.grantee_plain c grantee
  rcases List.mem_cons.mp rest with rfl | rest
  · decide
  rcases List.mem_append.mp rest with codes | grantor
  · have plain := clause.codeChars_plain c codes
    simp only [List.mem_cons, not_or] at plain
    exact ⟨plain.2.2.1, plain.2.2.2.1⟩
  · have plain := clause.grantorChars_plain c grantor
    simp only [List.mem_cons, not_or] at plain
    exact ⟨plain.2.1, plain.2.2.1⟩

theorem line_ne_nil (clause : Clause) : clause.line ≠ [] := by
  simp [line]

theorem splitLast?_line (clause : Clause) :
    Text.splitLast? '=' clause.line =
      some (clause.grantee.toList, clause.codeChars ++ clause.grantorChars) := by
  apply Text.splitLast?_append
  intro mem
  rcases List.mem_append.mp mem with codes | grantor
  · exact clause.codeChars_plain _ codes (by simp)
  · exact clause.grantorChars_plain _ grantor (by simp)

theorem splitLast?_grantor (clause : Clause) :
    Text.splitLast? '/' (clause.codeChars ++ clause.grantorChars) =
      clause.grantor.map fun name => (clause.codeChars, name.toList) := by
  unfold grantorChars
  split
  · next none =>
    rw [none, Option.map_none, List.append_nil, Text.splitLast?_eq_none_iff]
    exact fun mem => clause.codeChars_plain _ mem (by simp)
  · next name named =>
    rw [named, Option.map_some]
    apply Text.splitLast?_append
    exact fun mem => clause.grantor_plain name named _ mem (by simp)

theorem make_grantee (clause : Clause) (grantor : Option (List Char)) :
    Entry.make clause.grantee.toList clause.codeChars grantor =
      { clause.entry with grantor := grantor.map String.ofList } := by
  have letters : ∀ code ∈ clause.codes, code.1 ≠ passOn := fun code mem eq =>
    clause.codes_plain code mem (by simp [eq])
  have grantee : (if clause.grantee.toList.isEmpty then everyone
      else String.ofList clause.grantee.toList) =
      if clause.grantee = "" then everyone else clause.grantee := by
    simp [String.ofList_toList, List.isEmpty_iff]
  simp only [Entry.make, entry, grantee, codeChars, decodeCodes_codes letters]

theorem ofToken_line (clause : Clause) :
    Entry.ofToken (String.ofList clause.line) = .ok clause.entry := by
  have read : Entry.ofChars? clause.line = some clause.entry := by
    rw [Entry.ofChars?, clause.splitLast?_line, Option.map_some]
    dsimp only
    rw [clause.splitLast?_grantor]
    cases named : clause.grantor with
    | none => simp [grantorChars, make_grantee, entry, named]
    | some name => simp [make_grantee, entry, named, String.ofList_toList]
  rw [Entry.ofToken, String.toList_ofList, read]

end Clause

/-! ### Arrays -/

namespace Item

/-- No comma within an entry separates anything. -/
theorem pass_written (item : Item) {previous : Char} (before : previous ≠ '\\') :
    ∃ last, last ≠ '\\' ∧ pass false previous item.written = some (false, last) := by
  have quotes : '"' ∉ item.line := fun mem => (item.line_plain _ mem).1 rfl
  have last : ∀ fallback, item.line.getLastD fallback ≠ '\\' := by
    intro fallback
    rw [List.getLastD_eq_getLast?, List.getLast?_eq_some_getLast item.line_ne_nil,
      Option.getD_some]
    exact (item.line_plain _ (List.getLast_mem _)).2
  unfold written
  split
  · exact ⟨'"', by decide, pass_quoted quotes before (last '"')⟩
  · next bare =>
    have commas : ',' ∉ item.line := fun mem => bare (item.quoted_of_comma mem)
    exact ⟨_, last previous, pass_plain quotes (fun _ => commas) previous⟩

theorem unwrap_written (item : Item) : Text.unwrap '"' '"' item.written = item.line := by
  unfold written
  split
  · have last : ('"' :: (item.line ++ ['"'])).getLast? = some '"' := by
      rw [← List.cons_append, List.getLast?_concat]
    simp [Text.unwrap, last]
  · have head : item.line.head? ≠ some '"' := fun head =>
      (item.line_plain _ (List.mem_of_head? head)).1 rfl
    simp [Text.unwrap, head]

end Item

theorem rawEntries_written {items : List Item} (inhabited : items ≠ []) :
    rawEntries (written items).toList = items.map Item.written := by
  have passes : ∀ item ∈ items, ∀ previous, previous ≠ '\\' →
      ∃ last, pass false previous item.written = some (false, last) := by
    intro item _ previous before
    obtain ⟨last, -, passed⟩ := item.pass_written before
    exact ⟨last, passed⟩
  rw [written, String.toList_ofList, rawEntries_braces _ (by decide),
    pieces_intercalate passes (fun _ _ => rfl) inhabited (by decide)]

theorem tokens_written (items : List Item) :
    tokens (some (written items)) = items.map fun item => String.ofList item.line := by
  have inhabited : (written items).toList.isEmpty = false := by simp [written]
  by_cases none : items = []
  · subst none
    decide
  · have lines : (items.map Item.written).map (Text.unwrap '"' '"') = items.map (·.line) := by
      simp [Item.unwrap_written]
    rw [tokens, Option.getD_some, entries, inhabited, if_neg (by simp), rawEntries_written none,
      lines, List.filter_eq_self.mpr (by simp [Clause.line_ne_nil]), List.map_map]
    rfl

theorem ofTokens_lines (clauses : List Clause) :
    Grants.ofTokens (clauses.map fun clause => String.ofList clause.line) =
      ⟨clauses.map Clause.entry, []⟩ := by
  induction clauses with
  | nil => rfl
  | cons clause clauses ih =>
    simp only [List.map_cons, Grants.ofTokens, ih, Clause.ofToken_line]

/-- Decoding a written access list gives its entries in their order and finds no malformed token. -/
theorem decode_written (items : List Item) (owner defaultPrivileges : String) :
    Grants.decode (some (written items)) owner defaultPrivileges =
      ⟨items.map (·.entry), []⟩ := by
  have read := ofTokens_lines (items.map (·.toClause))
  rw [List.map_map, List.map_map] at read
  rw [Grants.decode, Option.getD_some, tokens_written]
  exact read

/-- An entry whose names hold the signs of access lists, in quotes for its commas. -/
def signedItem : Item where
  grantee := "a,b=c/\x7bd\x7d e"
  codes := [('r', true), ('w', false), ('?', true)]
  grantor := some "x, \x7by\x7d"
  grantee_plain := List.all_iff_forall_prop.mp (by decide)
  codes_plain := List.all_iff_forall_prop.mp (by decide)
  grantor_plain := by
    rintro name given
    cases given
    exact List.all_iff_forall_prop.mp (by decide)
  quoted := true
  quoted_of_comma := fun _ => rfl

/-- An entry for everyone, without quotes. -/
def publicItem : Item where
  grantee := ""
  codes := [('a', false)]
  grantor := none
  grantee_plain := fun _ mem => nomatch mem
  codes_plain := List.all_iff_forall_prop.mp (by decide)
  grantor_plain := fun _ given => nomatch given
  quoted := false
  quoted_of_comma := fun comma => absurd comma (by decide)

theorem decode_written_signedItem :
    written [publicItem, signedItem] =
        "\x7b=a,\"a,b=c/\x7bd\x7d e=r*w?*/x, \x7by\x7d\"\x7d" ∧
      Grants.decode (some (written [publicItem, signedItem])) "owner" "arwdxt" = {
        entries := [
          { grantee := "PUBLIC"
            grantor := none
            privileges := [(.insert, false)]
            codes := "a" },
          { grantee := "a,b=c/\x7bd\x7d e"
            grantor := some "x, \x7by\x7d"
            privileges := [(.select, true), (.update, false), (.unknown, true)]
            codes := "r*w?*" }]
        malformed := [] } :=
  ⟨by decide, decode_written [publicItem, signedItem] "owner" "arwdxt"⟩

end SystemCatalog.Acl
