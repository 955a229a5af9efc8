import SystemCatalog.Acl.Printed
import SystemCatalog.Proofs.Acl.Array

/-!
# Reading printed arrays

The elements of a printed array stay apart if none but the last one ends with a backslash.  The
closing quote of an element that does comes after a backslash, so it closes nothing, and the comma
after it separates nothing: `tokens_printed_iff`.
-/

namespace SystemCatalog.Acl

namespace Element

variable {isSpace : Char → Bool} {element : List Char}

/-- Whether the element ends with a backslash, so that its closing quote closes nothing. -/
def staysOpen (element : List Char) : Bool := element.getLast? == some '\\'

theorem isWrapped_of_mem {c : Char} (mem : c ∈ element) (sign : c ∈ signs) :
    isWrapped isSpace element = true := by
  refine List.any_eq_true.mpr ⟨c, mem, ?_⟩
  rw [List.contains_iff_mem.mpr sign, Bool.or_true]

theorem not_mem_of_bare {c : Char} (bare : isWrapped isSpace element = false) (sign : c ∈ signs) :
    c ∉ element := by
  intro mem
  rw [isWrapped_of_mem mem sign] at bare
  cases bare

theorem isWrapped_of_staysOpen (stays : staysOpen element = true) :
    isWrapped isSpace element = true :=
  isWrapped_of_mem (List.mem_of_getLast? (eq_of_beq stays)) (by decide)

theorem pass_escapeChar (previous c : Char) : pass true previous (escapeChar c) = some (true, c) := by
  unfold escapeChar
  split
  · simp [pass]
  · next plain =>
    rw [not_or] at plain
    simp [pass, plain.1]

/-- Within quotes every double quote of an element comes after a backslash. -/
theorem pass_escaped (element : List Char) (previous : Char) :
    pass true previous (escaped element) = some (true, element.getLastD previous) := by
  induction element generalizing previous with
  | nil => rfl
  | cons c element ih =>
    rw [escaped, List.flatMap_cons, pass_append, pass_escapeChar, ← escaped]
    dsimp only [Option.bind_some]
    rw [ih c, List.getLastD_cons]

theorem pass_printed (isSpace : Char → Bool) (element : List Char) {previous : Char}
    (before : previous ≠ '\\') :
    ∃ last, pass false previous (printed isSpace element) = some (staysOpen element, last) := by
  unfold printed
  split
  · refine ⟨'"', ?_⟩
    have closing : (if element.getLastD '"' ≠ '\\' then false else true) = staysOpen element := by
      rw [List.getLastD_eq_getLast?, staysOpen]
      cases element.getLast? with
      | none => rfl
      | some c => by_cases h : c = '\\' <;> simp [h]
    rw [pass, if_neg (by simp), if_pos ⟨rfl, before⟩, pass_append, Bool.not_false, pass_escaped,
      ← closing]
    simp [pass]
  · next bare =>
    rw [Bool.not_eq_true] at bare
    have quotes : '"' ∉ element := not_mem_of_bare bare (by decide)
    have commas : ',' ∉ element := not_mem_of_bare bare (by decide)
    have closed : staysOpen element = false := by
      rw [Bool.eq_false_iff]
      intro stays
      rw [isWrapped_of_staysOpen stays] at bare
      cases bare
    rw [closed]
    exact ⟨_, pass_plain quotes (fun _ => commas) previous⟩

theorem unwrap_printed (isSpace : Char → Bool) (element : List Char) :
    Text.unwrap '"' '"' (printed isSpace element) = token isSpace element := by
  unfold printed token
  cases wrapped : isWrapped isSpace element with
  | true =>
    have last : ('"' :: (escaped element ++ ['"'])).getLast? = some '"' := by
      rw [← List.cons_append, List.getLast?_concat]
    simp [Text.unwrap, last]
  | false =>
    have head : element.head? ≠ some '"' := fun head =>
      not_mem_of_bare wrapped (show '"' ∈ signs by decide) (List.mem_of_head? head)
    simp [Text.unwrap, head]

theorem token_ne_nil (isSpace : Char → Bool) (inhabited : element ≠ []) :
    token isSpace element ≠ [] := by
  unfold token
  split
  · obtain ⟨c, rest, rfl⟩ := List.exists_cons_of_ne_nil inhabited
    rw [escaped, List.flatMap_cons, escapeChar]
    split
    · simp
    · simp
  · exact inhabited

/-- A piece that goes on after an element whose quotes stay open is read as more than this
element. -/
theorem length_token_lt_unwrap (stays : staysOpen element = true) {more : List Char}
    (longer : more ≠ []) : (token isSpace element).length <
      (Text.unwrap '"' '"' (printed isSpace element ++ more)).length := by
  have short := Text.length_le_unwrap '"' '"' (printed isSpace element ++ more)
  have positive := List.length_pos_iff.mpr longer
  rw [printed, if_pos (isWrapped_of_staysOpen stays)] at short ⊢
  rw [token, if_pos (isWrapped_of_staysOpen stays)]
  simp only [List.length_append, List.length_cons, List.length_nil] at short
  omega

end Element

open Element (staysOpen token)

variable {isSpace : Char → Bool} {texts : List (List Char)}

def line (isSpace : Char → Bool) (texts : List (List Char)) : List Char :=
  List.intercalate [','] (texts.map (Element.printed isSpace))

theorem line_cons (text next : List Char) (more : List (List Char)) :
    line isSpace (text :: next :: more) =
      Element.printed isSpace text ++ ',' :: line isSpace (next :: more) := by
  simp only [line, List.map_cons, List.intercalate_cons_cons, List.append_assoc,
    List.singleton_append]

theorem pieces_line_cons {text : List Char} (closed : staysOpen text = false) (next : List Char)
    (more : List (List Char)) {previous : Char} (before : previous ≠ '\\') :
    pieces false previous (line isSpace (text :: next :: more)) =
      Element.printed isSpace text :: pieces false ',' (line isSpace (next :: more)) := by
  obtain ⟨last, passed⟩ := Element.pass_printed isSpace text before
  rw [closed] at passed
  exact pieces_join_cons passed _ _

/-- An element whose quotes stay open takes the comma after it into its piece. -/
theorem pieces_line_open {text : List Char} (stays : staysOpen text = true) (next : List Char)
    (more : List (List Char)) {previous : Char} (before : previous ≠ '\\') :
    ∃ rest others, pieces false previous (line isSpace (text :: next :: more)) =
      (Element.printed isSpace text ++ ',' :: rest) :: others := by
  obtain ⟨last, passed⟩ := Element.pass_printed isSpace text before
  rw [stays] at passed
  rw [line_cons, pieces_append passed, pieces_cons (by simp)]
  obtain ⟨rest, others, eq⟩ := List.exists_cons_of_ne_nil (pieces_ne_nil
    (if ',' = '"' ∧ last ≠ '\\' then !true else true) ',' (line isSpace (next :: more)))
  rw [eq]
  exact ⟨rest, others, rfl⟩

def entriesOf (raw : List (List Char)) : List (List Char) :=
  (raw.map (Text.unwrap '"' '"')).filter (!·.isEmpty)

theorem entriesOf_cons {piece : List Char} (inhabited : Text.unwrap '"' '"' piece ≠ [])
    (raw : List (List Char)) :
    entriesOf (piece :: raw) = Text.unwrap '"' '"' piece :: entriesOf raw := by
  rw [entriesOf, List.map_cons, List.filter_cons_of_pos (by simpa using inhabited), entriesOf]

theorem closed_of_entriesOf (named : ∀ text ∈ texts, text ≠ []) {previous : Char}
    (before : previous ≠ '\\')
    (apart : entriesOf (pieces false previous (line isSpace texts)) = texts.map (token isSpace)) :
    ∀ text ∈ texts.dropLast, staysOpen text = false := by
  induction texts generalizing previous with
  | nil => exact fun text mem => nomatch mem
  | cons text texts ih =>
    cases texts with
    | nil => exact fun text mem => nomatch mem
    | cons next more =>
      cases stays : staysOpen text with
      | true =>
        -- The first entry that is read is longer than the first element.
        exfalso
        obtain ⟨rest, others, eq⟩ := @pieces_line_open isSpace _ stays next more _ before
        have longer := @Element.length_token_lt_unwrap isSpace _ stays (',' :: rest) (by simp)
        rw [eq, entriesOf_cons (List.ne_nil_of_length_pos (Nat.zero_lt_of_lt longer)),
          List.map_cons, List.cons.injEq] at apart
        rw [apart.1] at longer
        exact Nat.lt_irrefl _ longer
      | false =>
        have first := Element.unwrap_printed isSpace text
        have inhabited := Element.token_ne_nil isSpace (named text List.mem_cons_self)
        rw [pieces_line_cons stays next more before, entriesOf_cons (by rwa [first]), first,
          List.map_cons, List.cons.injEq] at apart
        rw [List.dropLast_cons_cons]
        intro other mem
        rcases List.mem_cons.mp mem with rfl | mem
        · exact stays
        · exact ih (fun text mem => named text (List.mem_cons_of_mem _ mem)) (by decide) apart.2
            other mem

theorem entriesOf_line_iff (named : ∀ text ∈ texts, text ≠ []) :
    entriesOf (pieces false ' ' (line isSpace texts)) = texts.map (token isSpace) ↔
      ∀ text ∈ texts.dropLast, staysOpen text = false := by
  refine ⟨closed_of_entriesOf named (by decide), fun closed => ?_⟩
  by_cases none : texts = []
  · rw [none]
    rfl
  have tokens : ∀ text ∈ texts.map (token isSpace), (!text.isEmpty) = true := by
    intro text mem
    obtain ⟨element, held, rfl⟩ := List.mem_map.mp mem
    simpa using Element.token_ne_nil isSpace (named element held)
  have unwrapped : (texts.map (Element.printed isSpace)).map (Text.unwrap '"' '"') =
      texts.map (token isSpace) := by
    simp [Element.unwrap_printed]
  have passes := fun text (_ : text ∈ texts) previous before =>
    @Element.pass_printed isSpace text previous before
  rw [line, pieces_intercalate passes closed none (by decide), entriesOf, unwrapped,
    List.filter_eq_self.mpr tokens]

theorem tokens_printed (isSpace : Char → Bool) (elements : List String) :
    tokens (some (printed isSpace elements)) =
      (entriesOf (pieces false ' ' (line isSpace (elements.map String.toList)))).map
        String.ofList := by
  have inhabited : (printed isSpace elements).toList.isEmpty = false := by simp [printed]
  rw [tokens, Option.getD_some, entries, inhabited, if_neg (by simp), printed,
    String.toList_ofList, rawEntries_braces _ (by decide), entriesOf, line, List.map_map]
  rfl

/-- The tokens of a printed array are its elements, each without the quotes around it, if and only
if no element but the last one ends with a backslash. -/
theorem tokens_printed_iff (isSpace : Char → Bool) {elements : List String}
    (named : ∀ element ∈ elements, element ≠ "") :
    tokens (some (printed isSpace elements)) =
        elements.map (fun element => String.ofList (token isSpace element.toList)) ↔
      ∀ element ∈ elements.dropLast, element.toList.getLast? ≠ some '\\' := by
  have texts : ∀ text ∈ elements.map String.toList, text ≠ [] := by
    intro text mem
    obtain ⟨element, held, rfl⟩ := List.mem_map.mp mem
    rw [Ne, String.toList_eq_nil_iff]
    exact named element held
  have same : elements.map (fun element => String.ofList (token isSpace element.toList)) =
      ((elements.map String.toList).map (token isSpace)).map String.ofList := by
    simp
  rw [tokens_printed, same, List.map_inj_right fun _ _ => String.ofList_inj.mp,
    entriesOf_line_iff texts]
  simp [staysOpen, ← List.map_dropLast]

/-- Elements with every sign of arrays, of which only the last one ends with a backslash. -/
def mixedElements : List String := ["al=r/b, jr", "=r/\"\\d\"", "e=\x7b\x7d", "plain=r/b", "f\\"]

theorem tokens_printed_iff_mixed : tokens (some (printed (· == ' ') mixedElements)) =
    ["al=r/b, jr", "=r/\\\"\\\\d\\\"", "e=\x7b\x7d", "plain=r/b", "f\\\\"] :=
  (tokens_printed_iff (· == ' ') (by decide)).mpr (by decide)

theorem not_always_apart : ¬ ∀ (isSpace : Char → Bool) (elements : List String),
    (∀ element ∈ elements, element ≠ "") → tokens (some (printed isSpace elements)) =
      elements.map fun element => String.ofList (token isSpace element.toList) := by
  intro apart
  have merged : tokens (some (printed (· == ' ') ["a\\", "b"])) = ["\"a\\\\\",b"] := by decide
  rw [apart (· == ' ') ["a\\", "b"] (by decide)] at merged
  exact absurd merged (by decide)

end SystemCatalog.Acl
