import SystemCatalog.Address.Literal
import SystemCatalog.Address.Written
import SystemCatalog.Proofs.Text.Percent

/-!
# IPv6 addresses

An IPv6 address is a number, with a zone behind a percent sign if it has one.  Its number has at
least two colons, and otherwise no characters but hexadecimal digits and dots:
`isNumberChar_of_isIPv6Number`, `colons_of_isIPv6Number`.
-/

namespace SystemCatalog.Address.Literal

open Text

variable {s part : List Char} {parts expanded before after : List (List Char)} {c : Char}

/-! ### The characters of a number -/

def isNumberChar (c : Char) : Bool := (Percent.hexValue? c).isSome || c == ':' || c == '.'

theorem isNumberChar_of_isDigit (digit : c.isDigit = true) : isNumberChar c = true := by
  have each : ∀ n < 0x80, (Char.ofNat n).isDigit = true → isNumberChar (Char.ofNat n) = true := by
    decide
  obtain ⟨n, small, rfl⟩ := exists_ofNat_of_ascii (toNat_of_isDigit digit)
  exact each n small digit

theorem isNumberChar_of_isIPv4 (number : isIPv4 s = true) : ∀ c ∈ s, isNumberChar c = true := by
  intro c mem
  rw [isIPv4, Bool.and_eq_true, List.all_eq_true] at number
  rcases @mem_splitOn '.' c s mem with rfl | ⟨piece, listed, inside⟩
  · rfl
  · have byte := number.2 piece listed
    simp only [isByte, Bool.and_eq_true] at byte
    exact isNumberChar_of_isDigit (List.all_eq_true.mp byte.1.1.1.2 c inside)

theorem isNumberChar_of_isGroup (group : isGroup s = true) : ∀ c ∈ s, isNumberChar c = true := by
  intro c mem
  rw [isGroup, Bool.and_eq_true, List.all_eq_true] at group
  rw [isNumberChar, group.2 c mem]
  rfl

theorem mem_expandTail (expands : expandTail parts = some expanded) (mem : part ∈ parts) :
    part ∈ expanded ∨ isIPv4 part = true := by
  fun_induction expandTail parts generalizing expanded with
  | case1 => cases mem
  | case2 last dotted number =>
    rw [List.mem_singleton.mp mem]
    exact Or.inr number
  | case3 last dotted number => cases expands
  | case4 last plain =>
    cases expands
    exact Or.inl mem
  | case5 first rest more ih =>
    obtain ⟨later, inner, rfl⟩ := Option.map_eq_some_iff.mp expands
    rcases List.mem_cons.mp mem with rfl | mem
    · exact Or.inl List.mem_cons_self
    · exact (ih inner mem).imp_left (List.mem_cons_of_mem _)

theorem eq_append_of_splitGap? (gap : splitGap? before parts = some (expanded, after)) :
    before ++ parts = expanded ++ [] :: after := by
  fun_induction splitGap? before parts with
  | case1 => cases gap
  | case2 => cases gap
  | case3 before part rest more blank =>
    cases gap
    rw [List.isEmpty_iff.mp blank]
  | case4 before part rest more inhabited ih =>
    rw [← ih gap, List.append_assoc]
    rfl

theorem mem_besideGap (mem : part ∈ parts) : part = [] ∨ part ∈ besideGap parts := by
  unfold besideGap
  split
  · next blank =>
    rw [eq_of_beq blank] at mem
    exact Or.inl (List.mem_singleton.mp mem)
  · exact Or.inr mem

theorem isGroup_of_isIPv6Parts (number : isIPv6Parts parts = true) (mem : part ∈ parts) :
    part = [] ∨ isGroup part = true := by
  cases parts with
  | nil => cases mem
  | cons first rest =>
    unfold isIPv6Parts at number
    dsimp only at number
    split at number
    · next before after gap =>
      rw [← List.singleton_append, eq_append_of_splitGap? gap] at mem
      rw [Bool.and_eq_true, List.all_append, Bool.and_eq_true] at number
      rcases List.mem_append.mp mem with mem | mem
      · exact (mem_besideGap mem).imp_right (List.all_eq_true.mp number.2.1 part)
      rcases List.mem_cons.mp mem with blank | mem
      · exact Or.inl blank
      · exact (mem_besideGap mem).imp_right (List.all_eq_true.mp number.2.2 part)
    · rw [Bool.and_eq_true, List.all_eq_true] at number
      exact Or.inr (number.2 part mem)

theorem isNumberChar_of_isIPv6Number (number : isIPv6Number s = true) :
    ∀ c ∈ s, isNumberChar c = true := by
  intro c mem
  unfold isIPv6Number at number
  dsimp only at number
  split at number
  · next expanded expands =>
    rcases @mem_splitOn ':' c s mem with rfl | ⟨part, listed, inside⟩
    · rfl
    rcases mem_expandTail expands listed with listed | dotted
    · rcases isGroup_of_isIPv6Parts number listed with rfl | group
      · cases inside
      · exact isNumberChar_of_isGroup group c inside
    · exact isNumberChar_of_isIPv4 dotted c inside
  · cases number

theorem toNat_of_isNumberChar (char : isNumberChar c = true) : c.toNat < 0x80 := by
  simp only [isNumberChar, Bool.or_eq_true, beq_iff_eq] at char
  rcases char with (digit | rfl) | rfl
  · exact Percent.toNat_of_hexValue? digit
  · decide
  · decide

theorem isNumberChar_toLower (char : isNumberChar c = true) : isNumberChar c.toLower = true := by
  have each : ∀ n < 0x80, isNumberChar (Char.ofNat n) = true →
      isNumberChar (Char.ofNat n).toLower = true := by decide
  obtain ⟨n, small, rfl⟩ := exists_ofNat_of_ascii (toNat_of_isNumberChar char)
  exact each n small char

/-! ### The colons of a number -/

theorem expandTail_singleton (expands : expandTail [part] = some expanded) :
    expanded = [['0'], ['0']] ∨ expanded = [part] := by
  rw [expandTail] at expands
  split at expands
  · split at expands
    · cases expands
      exact Or.inl rfl
    · cases expands
  · cases expands
    exact Or.inr rfl

/-- One or two parts are too few: they leave no place for a gap, also if the last is an IPv4
address. -/
theorem three_le_length_splitOn (number : isIPv6Number s = true) :
    3 ≤ (splitOn ':' s).length := by
  unfold isIPv6Number at number
  dsimp only at number
  split at number
  · next expanded expands =>
    cases pieces : splitOn ':' s with
    | nil =>
      rw [pieces] at expands
      cases expands
      cases number
    | cons first rest =>
      rw [pieces] at expands
      cases rest with
      | nil =>
        rcases expandTail_singleton expands with rfl | rfl
        · exact absurd number (by decide)
        · simp [isIPv6Parts, splitGap?] at number
      | cons second rest =>
        cases rest with
        | nil =>
          obtain ⟨tail, inner, rfl⟩ := Option.map_eq_some_iff.mp expands
          rcases expandTail_singleton inner with rfl | rfl
          · simp [isIPv6Parts, splitGap?] at number
          · simp [isIPv6Parts, splitGap?] at number
        | cons third rest =>
          simp only [List.length_cons]
          omega
  · cases number

theorem colons_of_isIPv6Number (number : isIPv6Number s = true) :
    ∃ before after, s = before ++ ':' :: after ∧ ':' ∈ after :=
  exists_of_splitOn (three_le_length_splitOn number)

/-! ### The zone -/

theorem isIPv6Number_of_isIPv6 (address : isIPv6 s = true) :
    ∃ number zone, s = number ++ Written.signed '%' zone ∧ isIPv6Number number = true := by
  unfold isIPv6 at address
  split at address
  · next number zone split =>
    simp only [Bool.and_eq_true] at address
    exact ⟨number, some zone, (eq_append_of_splitFirst? split).1, address.2⟩
  · rw [Bool.and_eq_true] at address
    exact ⟨s, none, (List.append_nil s).symm, address.2⟩

end SystemCatalog.Address.Literal
