import SystemCatalog.Proofs.Text.Digit
import SystemCatalog.Version.Reader

/-!
# The grammar of versions

A text is read as a version if it starts with blanks, a letter `v` that may be missing and one to
three runs of digits with points between them, as long as possible; what follows does not matter.
The text of a version is read back, whatever stands around it: `ofText_reads`.
-/

namespace SystemCatalog.Version

open Number Text

/-! ### The grammar -/

structure IsRun (run : List Char) : Prop where
  nonempty : run ≠ []
  digits : ∀ c ∈ run, isDigit c

def EndsRun (rest : List Char) : Prop := ∀ c ∈ rest.head?, ¬isDigit c

/-- Whether the parts of a version end ahead of the text: it starts neither with a digit nor with a
point and a digit. -/
def EndsParts (rest : List Char) : Prop :=
  EndsRun rest ∧ ∀ c after, rest = '.' :: c :: after → ¬isDigit c

/-- What may stand ahead of the first part: blanks and the letter. -/
def Leads (front : List Char) : Prop :=
  ∃ blanks letter, front = blanks ++ letter ∧ (∀ c ∈ blanks, isBlank c) ∧
    (letter = [] ∨ letter = ['v'])

/-- Whether a text starts with the runs of digits as the parts of a version: each is as long as
possible, and there are as many as possible. -/
inductive Starts : List Char → List (List Char) → Prop where
  | one {major rest : List Char} : IsRun major → EndsParts rest → Starts (major ++ rest) [major]
  | two {major minor rest : List Char} : IsRun major → IsRun minor → EndsParts rest →
    Starts (major ++ '.' :: (minor ++ rest)) [major, minor]
  | three {major minor patch rest : List Char} : IsRun major → IsRun minor → IsRun patch →
    EndsRun rest → Starts (major ++ '.' :: (minor ++ '.' :: (patch ++ rest))) [major, minor, patch]

def Reads (s : String) (runs : List (List Char)) : Prop :=
  ∃ front body, s.toList = front ++ body ∧ Leads front ∧ Starts body runs

def valueAt (runs : List (List Char)) (place : Nat) : Nat := (runs[place]?.map natOfDigits).getD 0

/-- The version whose parts the runs stand for; a missing run is zero. -/
def ofRuns (runs : List (List Char)) : Version :=
  ofInts (valueAt runs 0) (valueAt runs 1) (valueAt runs 2)

/-! ### Runs -/

section Runs

variable {p : Char → Bool} {front run rest : List Char}

theorem takeWhile_eq_nil (ends : ∀ c ∈ rest.head?, ¬p c) : rest.takeWhile p = [] := by
  cases rest with
  | nil => rfl
  | cons c rest => rw [List.takeWhile_cons_of_neg (ends c rfl)]

theorem dropWhile_append (inside : ∀ c ∈ front, p c) (ends : ∀ c ∈ rest.head?, ¬p c) :
    (front ++ rest).dropWhile p = rest := by
  rw [List.dropWhile_append_of_pos inside]
  cases rest with
  | nil => rfl
  | cons c rest => rw [List.dropWhile_cons_of_neg (ends c rfl)]

theorem takeWhile_run (isRun : IsRun run) (ends : EndsRun rest) :
    (run ++ rest).takeWhile isDigit = run := by
  rw [List.takeWhile_append_of_pos isRun.digits, takeWhile_eq_nil ends, List.append_nil]

theorem dropWhile_run (isRun : IsRun run) (ends : EndsRun rest) :
    (run ++ rest).dropWhile isDigit = rest :=
  dropWhile_append isRun.digits ends

theorem isRun_takeWhile (nonempty : rest.takeWhile isDigit ≠ []) :
    IsRun (rest.takeWhile isDigit) :=
  ⟨nonempty, List.all_eq_true.mp List.all_takeWhile⟩

theorem endsRun_dropWhile (rest : List Char) : EndsRun (rest.dropWhile isDigit) := by
  intro c first
  have outside := List.head?_dropWhile_not isDigit rest
  rw [Option.mem_def.mp first] at outside
  simpa using outside

theorem endsRun_point (rest : List Char) : EndsRun ('.' :: rest) := by
  simp only [EndsRun, List.head?_cons, Option.mem_some_iff, forall_eq']
  decide

theorem pointRun_run (isRun : IsRun run) (ends : EndsRun rest) :
    pointRun ('.' :: (run ++ rest)) = (run, rest) := by
  rw [pointRun, takeWhile_run isRun ends, dropWhile_run isRun ends]
  obtain ⟨c, tail, rfl⟩ := List.exists_cons_of_ne_nil isRun.nonempty
  rfl

theorem pointRun_of_endsParts (ends : EndsParts rest) : pointRun rest = ([], rest) := by
  unfold pointRun
  split
  · next after =>
    have empty : after.takeWhile isDigit = [] :=
      takeWhile_eq_nil fun c first => by
        obtain ⟨tail, rfl⟩ := List.head?_eq_some_iff.mp first
        exact ends.2 c tail rfl
    rw [empty]
  · rfl

theorem endsParts_or_run (ends : EndsRun rest) :
    EndsParts rest ∨ ∃ run rest', rest = '.' :: (run ++ rest') ∧ IsRun run ∧ EndsRun rest' := by
  by_cases more : ∃ c after, rest = '.' :: c :: after ∧ isDigit c
  · obtain ⟨c, after, rfl, digit⟩ := more
    right
    refine ⟨(c :: after).takeWhile isDigit, (c :: after).dropWhile isDigit, ?_,
      isRun_takeWhile (by simp [digit]), endsRun_dropWhile _⟩
    rw [List.takeWhile_append_dropWhile]
  · exact .inl ⟨ends, fun c after eq digit => more ⟨c, after, eq, digit⟩⟩

end Runs

theorem exists_starts {body : List Char} (nonempty : body.takeWhile isDigit ≠ []) :
    ∃ runs, Starts body runs := by
  have first := isRun_takeWhile nonempty
  rw [← @List.takeWhile_append_dropWhile _ isDigit body]
  obtain ends | ⟨minor, rest, eq, second, ends⟩ := endsParts_or_run (endsRun_dropWhile body)
  · exact ⟨_, .one first ends⟩
  rw [eq]
  obtain ends | ⟨patch, rest', rfl, third, ends⟩ := endsParts_or_run ends
  · exact ⟨_, .two first second ends⟩
  · exact ⟨_, .three first second third ends⟩

theorem Starts.exists_digit {body : List Char} {runs : List (List Char)}
    (starts : Starts body runs) : ∃ c tail, body = c :: tail ∧ isDigit c := by
  have first : ∃ major rest, body = major ++ rest ∧ IsRun major := by
    cases starts with
    | one isRun _ | two isRun _ _ | three isRun _ _ _ => exact ⟨_, _, rfl, isRun⟩
  obtain ⟨major, rest, rfl, isRun⟩ := first
  obtain ⟨c, tail, rfl⟩ := List.exists_cons_of_ne_nil isRun.nonempty
  exact ⟨c, tail ++ rest, rfl, isRun.digits c List.mem_cons_self⟩

/-! ### The front of a text -/

theorem trimLeft_append {blanks rest : List Char} (blank : ∀ c ∈ blanks, isBlank c)
    (ends : ∀ c ∈ rest.head?, ¬isBlank c) : trimLeft (blanks ++ rest) = rest :=
  dropWhile_append blank ends

theorem dropLetter_trimLeft {front body : List Char} (leads : Leads front)
    (digit : ∃ c tail, body = c :: tail ∧ isDigit c) :
    dropLetter (trimLeft (front ++ body)) = body := by
  obtain ⟨blanks, letter, rfl, blank, either⟩ := leads
  obtain ⟨c, tail, rfl, digit⟩ := digit
  -- Neither a digit nor the letter is blank, and the letter is no digit.
  rw [List.append_assoc]
  rcases either with rfl | rfl
  · rw [List.nil_append, trimLeft_append blank (by simpa using not_isBlank_of_isDigit digit),
      dropLetter]
    rintro rest ⟨⟩
    exact absurd digit (by decide)
  · have letter : ∀ c ∈ (['v'] ++ c :: tail).head?, ¬isBlank c := by
      rintro _ ⟨⟩
      decide
    rw [trimLeft_append blank letter]
    rfl

theorem exists_leads (s : List Char) :
    ∃ front, s = front ++ dropLetter (trimLeft s) ∧ Leads front := by
  have whole : s = s.takeWhile isBlank ++ trimLeft s := List.takeWhile_append_dropWhile.symm
  have blank : ∀ c ∈ s.takeWhile isBlank, isBlank c := List.all_eq_true.mp List.all_takeWhile
  unfold dropLetter
  split
  · next rest eq =>
    refine ⟨s.takeWhile isBlank ++ ['v'], ?_, _, _, rfl, blank, .inr rfl⟩
    rw [eq] at whole
    rw [List.append_assoc]
    exact whole
  · exact ⟨s.takeWhile isBlank, whole, _, [], by simp, blank, .inl rfl⟩

/-! ### Reading -/

theorem runs?_of_run {s major rest : List Char} (body : dropLetter (trimLeft s) = major ++ rest)
    (isRun : IsRun major) (ends : EndsRun rest) :
    runs? s = some (major, (pointRun rest).1, (pointRun (pointRun rest).2).1) := by
  rw [runs?, body, takeWhile_run isRun ends, dropWhile_run isRun ends]
  obtain ⟨c, tail, rfl⟩ := List.exists_cons_of_ne_nil isRun.nonempty
  rfl

theorem runs?_front {front body : List Char} {runs : List (List Char)} (leads : Leads front)
    (starts : Starts body runs) :
    runs? (front ++ body) = some (runs.getD 0 [], runs.getD 1 [], runs.getD 2 []) := by
  have dropped := dropLetter_trimLeft leads starts.exists_digit
  cases starts with
  | one first ends =>
    simp [runs?_of_run dropped first ends.1, pointRun_of_endsParts ends]
  | two first second ends =>
    simp [runs?_of_run dropped first (endsRun_point _), pointRun_run second ends.1,
      pointRun_of_endsParts ends]
  | three first second third ends =>
    simp [runs?_of_run dropped first (endsRun_point _), pointRun_run second (endsRun_point _),
      pointRun_run third ends]

theorem runs?_eq_none {s : String} (unread : ¬∃ runs, Reads s runs) : runs? s.toList = none := by
  obtain ⟨front, split, leads⟩ := exists_leads s.toList
  have empty : (dropLetter (trimLeft s.toList)).takeWhile isDigit = [] :=
    Decidable.byContradiction fun nonempty =>
      have ⟨runs, starts⟩ := exists_starts nonempty
      unread ⟨runs, front, _, split, leads, starts⟩
  rw [runs?, empty]

theorem part_eq (run : List Char) :
    part run = if run.length ≤ digitLimit then .ok (.int (natOfDigits run))
      else .error (.longNumeral run.length) := by
  unfold part evaluate
  by_cases long : digitLimit < run.length
  · simp [long, Nat.not_le.mpr long]
  · simp [long, Nat.not_lt.mp long]

theorem valueAt_eq (runs : List (List Char)) (place : Nat) :
    valueAt runs place = natOfDigits (runs.getD place []) := by
  rw [valueAt, List.getD_eq_getElem?_getD]
  cases runs[place]? <;> rfl

theorem Starts.short_iff {body : List Char} {runs : List (List Char)} (starts : Starts body runs)
    (n : Nat) : (∀ run ∈ runs, run.length ≤ n) ↔ (runs.getD 0 []).length ≤ n ∧
      (runs.getD 1 []).length ≤ n ∧ (runs.getD 2 []).length ≤ n := by
  cases starts <;> simp

theorem parts_eq (major minor patch : List Char) :
    if major.length ≤ digitLimit ∧ minor.length ≤ digitLimit ∧ patch.length ≤ digitLimit then
      (do return ⟨← part major, ← part minor, ← part patch⟩) =
        Except.ok (ofInts (natOfDigits major) (natOfDigits minor) (natOfDigits patch))
    else ∃ digits, (do return (⟨← part major, ← part minor, ← part patch⟩ : Version)) =
      .error (.longNumeral digits) := by
  simp only [part_eq]
  by_cases short : major.length ≤ digitLimit
  case neg => simp [short, bind, Except.bind]
  by_cases short' : minor.length ≤ digitLimit
  case neg => simp [short, short', bind, Except.bind]
  by_cases short'' : patch.length ≤ digitLimit <;>
    simp [short, short', short'', ofInts, bind, Except.bind, pure, Except.pure]

theorem ofText_of_reads {s : String} {runs : List (List Char)} (reads : Reads s runs) :
    if ∀ run ∈ runs, run.length ≤ digitLimit then ofText s = .ok (ofRuns runs)
    else ∃ digits, ofText s = .error (.longNumeral digits) := by
  obtain ⟨front, body, split, leads, starts⟩ := reads
  rw [ofText, split, runs?_front leads starts]
  simp only [starts.short_iff, ofRuns, valueAt_eq]
  exact parts_eq _ _ _

theorem ofText_of_unread {s : String} (unread : ¬∃ runs, Reads s runs) :
    ofText s = .error (.unreadableVersion (.text s)) := by
  rw [ofText, runs?_eq_none unread]

/-! ### Writing and reading back -/

theorem isRun_toDigits (n : Nat) : IsRun (Nat.toDigits 10 n) where
  nonempty := Nat.toDigits_ne_nil
  digits c mem := by
    have digit := Nat.isDigit_of_mem_toDigits (by decide) (by decide) mem
    rw [isDigit, digitValue?_of_isDigit digit]
    rfl

theorem length_toDigits_le {n size : Nat} (positive : 0 < size) (small : n < Nat.pow 10 size) :
    (Nat.toDigits 10 n).length ≤ size :=
  (Nat.length_toDigits_le_iff (by decide) positive).mpr small

theorem toList_text (a b c : Nat) : (ofInts a b c).text.toList =
    Nat.toDigits 10 a ++ '.' :: (Nat.toDigits 10 b ++ '.' :: Nat.toDigits 10 c) := by
  have text : (ofInts a b c).text = toString a ++ "." ++ toString b ++ "." ++ toString c := rfl
  simp [text]

theorem ofText_of_written {s : String} {parts : List Nat}
    (reads : Reads s (parts.map (Nat.toDigits 10)))
    (small : ∀ n ∈ parts, n < Nat.pow 10 digitLimit) :
    ofText s = .ok (ofInts (parts.getD 0 0) (parts.getD 1 0) (parts.getD 2 0)) := by
  have short : ∀ run ∈ parts.map (Nat.toDigits 10), run.length ≤ digitLimit := by
    intro run mem
    obtain ⟨n, listed, rfl⟩ := List.mem_map.mp mem
    exact length_toDigits_le (by decide) (small n listed)
  have value (place : Nat) : valueAt (parts.map (Nat.toDigits 10)) place = parts.getD place 0 := by
    rw [valueAt, List.getElem?_map, List.getD_eq_getElem?_getD]
    cases parts[place]? with
    | none => rfl
    | some n => exact natOfDigits_toDigits n
  have read := ofText_of_reads reads
  rw [if_pos short] at read
  rw [read, ofRuns, value, value, value]

theorem ofText_eq_ok_iff {s : String} {v : Version} : ofText s = .ok v ↔
    ∃ runs, Reads s runs ∧ (∀ run ∈ runs, run.length ≤ digitLimit) ∧ v = ofRuns runs := by
  constructor
  · intro read
    by_cases readable : ∃ runs, Reads s runs
    · obtain ⟨runs, reads⟩ := readable
      have outcome := ofText_of_reads reads
      split at outcome
      · next short => exact ⟨runs, reads, short, Except.ok.inj (read.symm.trans outcome)⟩
      · obtain ⟨digits, failed⟩ := outcome
        cases read.symm.trans failed
    · cases read.symm.trans (ofText_of_unread readable)
  · rintro ⟨runs, reads, short, rfl⟩
    have outcome := ofText_of_reads reads
    rwa [if_pos short] at outcome

theorem family_of_ofText {s : String} {fault : Fault} (failed : ofText s = .error fault) :
    fault.family = .value := by
  by_cases readable : ∃ runs, Reads s runs
  · obtain ⟨runs, reads⟩ := readable
    have outcome := ofText_of_reads reads
    split at outcome
    · cases failed.symm.trans outcome
    · obtain ⟨digits, failed'⟩ := outcome
      cases failed.symm.trans failed'
      rfl
  · cases failed.symm.trans (ofText_of_unread readable)
    rfl

/-- A text is read as a version if and only if it starts with the parts of one, of which none is too
long.  Versions are read back from their texts, in full or without their last parts, whatever stands
ahead of a version and after it. -/
theorem ofText_reads :
    (∀ s v, ofText s = .ok v ↔
      ∃ runs, Reads s runs ∧ (∀ run ∈ runs, run.length ≤ digitLimit) ∧ v = ofRuns runs) ∧
    (∀ s fault, ofText s = .error fault → fault.family = .value) ∧
    ∀ front suffix : String, Leads front.toList →
      ∀ a < Nat.pow 10 digitLimit, ∀ b < Nat.pow 10 digitLimit, ∀ c < Nat.pow 10 digitLimit,
        (EndsRun suffix.toList →
          ofText (front ++ (ofInts a b c).text ++ suffix) = .ok (ofInts a b c)) ∧
        (EndsParts suffix.toList →
          ofText (front ++ (toString a ++ "." ++ toString b) ++ suffix) = .ok (ofInts a b 0) ∧
          ofText (front ++ toString a ++ suffix) = .ok (ofInts a 0 0)) := by
  refine ⟨fun s v => ofText_eq_ok_iff, fun s fault => family_of_ofText,
    fun front suffix leads a smallA b smallB c smallC => ⟨fun ends => ?_, fun ends => ⟨?_, ?_⟩⟩⟩
  · have starts := Starts.three (isRun_toDigits a) (isRun_toDigits b) (isRun_toDigits c) ends
    exact @ofText_of_written _ [a, b, c] ⟨front.toList, _, by simp [toList_text], leads, starts⟩
      (List.forall_mem_cons.mpr ⟨smallA,
        List.forall_mem_cons.mpr ⟨smallB, List.forall_mem_singleton.mpr smallC⟩⟩)
  · have starts := Starts.two (isRun_toDigits a) (isRun_toDigits b) ends
    exact @ofText_of_written _ [a, b] ⟨front.toList, _, by simp, leads, starts⟩
      (List.forall_mem_cons.mpr ⟨smallA, List.forall_mem_singleton.mpr smallB⟩)
  · have starts := Starts.one (isRun_toDigits a) ends
    exact @ofText_of_written _ [a] ⟨front.toList, _, by simp, leads, starts⟩
      (List.forall_mem_singleton.mpr smallA)

theorem ofText_reads_snapshot :
    ofText ("\t v" ++ (ofInts (4 : Nat) (10 : Nat) (0 : Nat)).text ++ ".1-SNAPSHOT") =
      .ok (ofInts (4 : Nat) (10 : Nat) (0 : Nat)) ∧
    ofText ("\t v" ++ (toString 4 ++ "." ++ toString 10) ++ ".x") =
      .ok (ofInts (4 : Nat) (10 : Nat) 0) ∧
    ofText ("\t v" ++ toString 4 ++ ".x") = .ok (ofInts (4 : Nat) 0 0) := by
  have blank : ∀ c ∈ ['\t', ' '], isBlank c :=
    List.forall_mem_cons.mpr ⟨rfl, List.forall_mem_singleton.mpr rfl⟩
  have leads : Leads "\t v".toList := ⟨['\t', ' '], ['v'], rfl, blank, .inr rfl⟩
  have small {n size : Nat} (below : n < Nat.pow 10 2) (le : 2 ≤ size) : n < Nat.pow 10 size :=
    Nat.lt_of_lt_of_le below (Nat.pow_le_pow_right (by decide) le)
  have written (suffix : String) := ofText_reads.2.2 "\t v" suffix leads
    4 (small (by decide) (by decide)) 10 (small (by decide) (by decide))
    0 (small (by decide) (by decide))
  have point : EndsRun ".1-SNAPSHOT".toList := endsRun_point _
  have letter : EndsParts ".x".toList := by
    refine ⟨endsRun_point _, fun c after eq => ?_⟩
    obtain ⟨-, rfl, -⟩ : '.' = '.' ∧ 'x' = c ∧ [] = after := by simpa using eq
    decide
  exact ⟨(written _).1 point, (written _).2 letter⟩

end SystemCatalog.Version
