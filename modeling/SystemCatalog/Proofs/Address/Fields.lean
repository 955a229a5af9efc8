import SystemCatalog.Address.Fields
import SystemCatalog.Proofs.Address.RoundTrip

/-!
# Addresses given part by part

The parts of an address, given one by one, have the defaults of the address and are written for the
driver and for logs as the address itself is: `conninfo_fields` and `redacted_fields`.
-/

namespace SystemCatalog.Address

/-! ### Single parts -/

namespace Fields

variable {β : Type}

theorem ite_ofOption (s : Option String) (value : Datum → β) (fallback : β) :
    (if (Datum.ofOption s).truthy then value (.ofOption s) else fallback) =
      (filled s).elim fallback fun text => value (.text text) := by
  cases s with
  | none => rfl
  | some text =>
    by_cases empty : text = ""
    · subst empty
      rfl
    · rw [filled_some empty]
      exact if_pos (bne_iff_ne.mpr empty)

theorem ite_port (port : Option Int) (value : Datum → β) (fallback : β) :
    (if (port.elim Datum.null .int).truthy then value (port.elim .null .int) else fallback) =
      (port.filter (· != 0)).elim fallback fun n => value (.int n) := by
  cases port with
  | none => rfl
  | some n =>
    by_cases zero : n = 0
    · subst zero
      rfl
    · have counts : (n != 0) = true := bne_iff_ne.mpr zero
      rw [Option.filter_some, if_pos counts]
      exact if_pos counts

theorem orElse_ofOption (s : Option String) (fallback : String) :
    orElse (.ofOption s) (.text fallback) = .text ((filled s).getD fallback) := by
  refine (ite_ofOption s id (.text fallback)).trans ?_
  cases filled s <;> rfl

theorem orElse_port (port : Option Int) (fallback : Int) :
    orElse (port.elim .null .int) (.int fallback) =
      .int ((port.filter (· != 0)).getD fallback) := by
  refine (ite_port port id (.int fallback)).trans ?_
  cases port.filter (· != 0) <;> rfl

theorem text?_ofOption (s : Option String) : text? (.ofOption s) = .ok (filled s) := by
  refine (ite_ofOption s (fun d => some <$> text d) (.ok none)).trans ?_
  cases filled s <;> rfl

theorem plain?_ofOption (s : Option String) :
    plain? (.ofOption s) = (filled s).map String.toList := by
  refine (ite_ofOption s (fun d => some d.plain.toList) none).trans ?_
  cases filled s <;> rfl

theorem plain?_port (port : Option Int) :
    plain? (port.elim .null .int) = (port.filter (· != 0)).map fun n => (toString n).toList := by
  refine (ite_port port (fun d => some d.plain.toList) none).trans ?_
  cases port.filter (· != 0) <;> rfl

theorem getD_filled (s : Option String) : (filled s).getD "" = s.getD "" := by
  cases s with
  | none => rfl
  | some text =>
    by_cases empty : text = ""
    · subst empty
      rfl
    · rw [filled_some empty]

variable {writePassword : Datum → Except Fault (List Char)} {write : String → List Char}

theorem writtenUser_ofOption (agrees : ∀ s, writePassword (.text s) = .ok (write s))
    (user password : Option String) :
    writtenUser (.ofOption user) (.ofOption password) writePassword =
      .ok ((filled user).map fun user => (quote user, (filled password).map write)) := by
  unfold writtenUser
  rw [text?_ofOption]
  cases filled user with
  | none => rfl
  | some user =>
    refine (ite_ofOption password (fun d => do
      let password ← some <$> writePassword d
      return some (quote user, password)) (.ok (some (quote user, none)))).trans ?_
    cases filled password with
    | none => rfl
    | some text =>
      rw [Option.elim_some, agrees]
      rfl

end Fields

/-! ### Addresses -/

variable (a : Address)

theorem effectiveUser_fields : a.fields.effectiveUser = .text a.effectiveUser :=
  Fields.orElse_ofOption a.username defaultUser

theorem effectivePort_fields : a.fields.effectivePort = .int a.effectivePort :=
  Fields.orElse_port a.port defaultPort

theorem effectiveSchema_fields : a.fields.effectiveSchema = .text a.effectiveSchema :=
  Fields.orElse_ofOption a.schema defaultSchema

theorem map_plain_optionData (query : List (String × String)) :
    ((optionData query).map fun (name, value) => (name.plain, value.plain)) = query := by
  simp [optionData, Datum.plain, Function.comp_def]

theorem written_fields {writePassword : Datum → Except Fault (List Char)}
    {write : String → List Char} (agrees : ∀ s, writePassword (.text s) = .ok (write s))
    (query : List (String × String)) :
    a.fields.written writePassword (optionData query) =
      .ok ({ a with query }.written write) := by
  unfold Fields.written
  simp only [fields, Fields.writtenUser_ofOption agrees, Fields.text?_ofOption,
    Fields.plain?_ofOption, Fields.plain?_port, map_plain_optionData, bind, Except.bind]
  rw [Fields.getD_filled]
  rfl

theorem options_optionData (query : List (String × String)) :
    Redaction.options (optionData query) =
      optionData (Redaction.maskEntries id Redaction.mask query) := by
  simp only [Redaction.options, Redaction.maskEntries, optionData, List.map_map]
  refine List.map_congr_left fun option _ => ?_
  exact congrArg (Prod.mk _) (apply_ite Datum.text _ _ _).symm

theorem redacted_fields : a.fields.redacted = .ok a.redacted := by
  unfold Fields.redacted
  have entries : a.fields.queryEntries = .ok (optionData a.query) := rfl
  rw [entries]
  show (do return (← a.fields.written _ (Redaction.options (optionData a.query))).text) = _
  rw [options_optionData, written_fields a fun _ => rfl]
  rfl

theorem completed_fields :
    a.fields.completed = { a.completed.fields with query := a.fields.query } := by
  unfold Fields.completed
  rw [effectiveUser_fields, effectivePort_fields, effectiveSchema_fields]
  rfl

theorem conninfo_fields : a.fields.conninfo = .ok a.conninfo := by
  have written : a.fields.completed.written (fun password => quote <$> Fields.text password) [] =
      .ok (a.completed.written quote) := by
    rw [completed_fields]
    exact written_fields a.completed (fun _ => rfl) []
  unfold Fields.conninfo
  rw [written]
  rfl

end SystemCatalog.Address
