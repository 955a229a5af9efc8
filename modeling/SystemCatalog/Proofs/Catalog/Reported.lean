import SystemCatalog.Catalog.Reported
import SystemCatalog.Proofs.Catalog.Injection
import SystemCatalog.Proofs.Sql.Condition

/-!
# Requested and reported kinds

The condition for the requested kinds of tables selects the rows that are reported with one of them:
`kindFilter_selects`.
-/

namespace SystemCatalog.Catalog.Query

open Sql

variable {q : Quoting} {typed inside : Bool} {column type schema kind text : String}

/-! ### The conditions for schemas and types -/

def schemaCondition (column : String) (inside : Bool) : Condition :=
  membership (.column column) inside (systemSchemas.map fun schema => .constant (.text schema))

def typeCondition (type : String) : Condition :=
  .equal (.column "table_type") (.constant (.text type))

theorem lexemes?_inSystemSchemas (named : IsSchemaColumn column) :
    q.lexemes? (inSystemSchemas column inside).toList =
      some (.word column :: ((if inside then [] else [.word "NOT"]) ++
        [.word "IN", .sign '(', .literal "information_schema", .sign ',', .literal "pg_catalog",
          .sign ',', .literal "sys", .sign ')'])) := by
  have word : q.lexemes? column.toList = some [.word column] := by
    rcases named with rfl | rfl <;> cases q <;> rfl
  rw [inSystemSchemas_eq, String.toList_append]
  cases inside with
  | true =>
    have list : q.lexemes? "IN ('information_schema', 'pg_catalog', 'sys')".toList =
        some [.word "IN", .sign '(', .literal "information_schema", .sign ',',
          .literal "pg_catalog", .sign ',', .literal "sys", .sign ')'] := by
      cases q <;> rfl
    exact Quoting.lexemes?_append word (c := ' ') (by decide) list
  | false =>
    have list : q.lexemes? "NOT IN ('information_schema', 'pg_catalog', 'sys')".toList =
        some [.word "NOT", .word "IN", .sign '(', .literal "information_schema", .sign ',',
          .literal "pg_catalog", .sign ',', .literal "sys", .sign ')'] := by
      cases q <;> rfl
    exact Quoting.lexemes?_append word (c := ' ') (by decide) list

theorem clause_inSystemSchemas (named : IsSchemaColumn column) :
    Clause q (inSystemSchemas column inside) (schemaCondition column inside) := by
  refine ⟨_, lexemes?_inSystemSchemas named, fun outer frame => ?_⟩
  rcases named with rfl | rfl <;> cases inside <;> rfl

theorem toList_conjunction (front rest : String) :
    (front ++ "' AND " ++ rest ++ ")").toList =
      (front ++ "' AND").toList ++ ' ' :: (rest.toList ++ ')' :: []) := by
  have blank : "' AND ".toList = "' AND".toList ++ [' '] := rfl
  have closing : ")".toList = [')'] := rfl
  rw [String.toList_append, String.toList_append, String.toList_append, String.toList_append,
    blank, closing]
  simp

theorem clause_typedCondition (named : IsSchemaColumn column) (known : type ∈ ["BASE TABLE", "VIEW"]) :
    Clause q (typedCondition type column inside)
      (.both (typeCondition type) (schemaCondition column inside)) := by
  have head : q.lexemes? ("(table_type = '" ++ type ++ "' AND").toList =
      some [.sign '(', .word "table_type", .sign '=', .literal type, .word "AND"] := by
    simp only [List.mem_cons, List.not_mem_nil, or_false] at known
    rcases known with rfl | rfl <;> cases q <;> rfl
  have joined : (typedCondition type column inside).toList =
      ("(table_type = '" ++ type ++ "' AND").toList ++
        ' ' :: ((inSystemSchemas column inside).toList ++ ')' :: []) :=
    toList_conjunction _ _
  have schemas : q.lexemes? (inSystemSchemas column inside).toList = _ :=
    lexemes?_inSystemSchemas named
  have closed := Quoting.lexemes?_append schemas (c := ')') (by decide)
    (show q.lexemes? [] = some [] from rfl)
  refine ⟨_, by rw [joined]; exact Quoting.lexemes?_append head (by decide) closed, ?_⟩
  intro outer frame
  rcases named with rfl | rfl <;> cases inside <;> rfl

theorem clause_foreign : Clause q "table_type = 'FOREIGN'" (typeCondition "FOREIGN") := by
  refine ⟨[.word "table_type", .sign '=', .literal "FOREIGN"], by cases q <;> rfl, ?_⟩
  intro outer frame
  rfl

variable {r : Record}

theorem truth_schemaCondition (known : r.get? column = some (.text schema)) :
    (schemaCondition column inside).truth r.getD = some (systemSchemas.contains schema == inside) := by
  have value : r.getD column = .text schema := by simp [Record.getD, known]
  have among : (Condition.among (.column column)
      (systemSchemas.map fun schema => .constant (.text schema))).truth r.getD =
        some (systemSchemas.contains schema) := by
    simp only [Condition.truth, Term.value, value, List.map_map]
    exact Truth.among_texts schema systemSchemas
  cases inside with
  | true =>
    rw [schemaCondition, membership, if_pos rfl, among, beq_true]
  | false =>
    rw [schemaCondition, membership, if_neg (by simp), Condition.truth, among, beq_false]
    rfl

theorem truth_typeCondition (raw : CatalogType (r.getD "table_type")) :
    (typeCondition type).truth r.getD = some true ↔ r.getD "table_type" = .text type := by
  apply Truth.equal_text_eq_true
  rcases raw with null | ⟨s, text, -⟩
  · exact Or.inl null
  · exact Or.inr ⟨s, text⟩

theorem truth_typed (known : r.get? column = some (.text schema))
    (raw : CatalogType (r.getD "table_type")) :
    (Condition.both (typeCondition type) (schemaCondition column inside)).truth r.getD = some true ↔
      r.getD "table_type" = .text type ∧ systemSchemas.contains schema = inside := by
  rw [Condition.truth, Truth.and_eq_true, truth_typeCondition raw, truth_schemaCondition known]
  simp

/-! ### Kinds -/

theorem reportedKind_typed (known : r.get? column = some (.text schema))
    (raw : CatalogType (r.getD "table_type")) :
    (∀ inside, reportedKind true column r =
        .ok (.text (if inside then "SYSTEM TABLE" else "TABLE")) ↔
      r.getD "table_type" = .text "BASE TABLE" ∧ systemSchemas.contains schema = inside) ∧
    (∀ inside, reportedKind true column r =
        .ok (.text (if inside then "SYSTEM VIEW" else "VIEW")) ↔
      r.getD "table_type" = .text "VIEW" ∧ systemSchemas.contains schema = inside) ∧
    (reportedKind true column r = .ok (.text "FOREIGN TABLE") ↔
      r.getD "table_type" = .text "FOREIGN") := by
  have value : r.getD column = .text schema := by simp [Record.getD, known]
  rw [reportedKind, if_pos rfl, value]
  generalize r.getD "table_type" = type at raw
  generalize member : systemSchemas.contains schema = system
  have systemSchema : isSystemSchema (.text schema) = .ok system := congrArg Except.ok member
  simp only [extendedKind, systemSchema, bind, Except.bind, pure, Except.pure]
  rcases raw with rfl | ⟨s, rfl, plain⟩
  · simp
  split
  · next base =>
    obtain rfl := Datum.text.inj base
    cases system <;> simp [Bool.forall_bool]
  · next view =>
    obtain rfl := Datum.text.inj view
    cases system <;> simp [Bool.forall_bool]
  · next foreign =>
    obtain rfl := Datum.text.inj foreign
    simp [Bool.forall_bool]
  · next base view foreign =>
    have base : s ≠ "BASE TABLE" := fun same => base (congrArg Datum.text same)
    have view : s ≠ "VIEW" := fun same => view (congrArg Datum.text same)
    have foreign : s ≠ "FOREIGN" := fun same => foreign (congrArg Datum.text same)
    -- No other type is the name of a kind.
    have others : tableTypes.erase "VIEW" = ["FOREIGN TABLE", "SYSTEM TABLE", "SYSTEM VIEW", "TABLE"] :=
      rfl
    simp only [others, List.mem_cons, List.not_mem_nil, or_false, not_or] at plain
    simp [Bool.forall_bool, base, view, foreign, plain]

theorem reportedKind_untyped (known : r.get? column = some (.text schema)) :
    reportedKind false column r =
      .ok (.text (if systemSchemas.contains schema then "SYSTEM TABLE" else "TABLE")) := by
  have value : r.getD column = .text schema := by simp [Record.getD, known]
  rw [reportedKind, if_neg (by simp), value]
  rfl

/-- The condition for a kind selects the rows that are reported with it. -/
theorem clause_kindCondition? (named : IsSchemaColumn column)
    (known : r.get? column = some (.text schema))
    (raw : typed = true → CatalogType (r.getD "table_type"))
    (h : kindCondition? kind typed column = some text) :
    ∃ c, Clause q text c ∧
      (c.truth r.getD = some true ↔ reportedKind typed column r = .ok (.text kind)) := by
  unfold kindCondition? at h
  split at h
  case h_1 | h_2 =>
    cases h
    refine ⟨_, clause_inSystemSchemas named, ?_⟩
    rw [truth_schemaCondition known, reportedKind_untyped known]
    cases systemSchemas.contains schema <;> simp
  case h_3 =>
    cases h
    refine ⟨_, clause_typedCondition named (by decide), ?_⟩
    rw [truth_typed known (raw rfl)]
    exact ((reportedKind_typed known (raw rfl)).1 false).symm
  case h_4 =>
    cases h
    refine ⟨_, clause_typedCondition named (by decide), ?_⟩
    rw [truth_typed known (raw rfl)]
    exact ((reportedKind_typed known (raw rfl)).1 true).symm
  case h_5 =>
    cases h
    refine ⟨_, clause_typedCondition named (by decide), ?_⟩
    rw [truth_typed known (raw rfl)]
    exact ((reportedKind_typed known (raw rfl)).2.1 false).symm
  case h_6 =>
    cases h
    refine ⟨_, clause_typedCondition named (by decide), ?_⟩
    rw [truth_typed known (raw rfl)]
    exact ((reportedKind_typed known (raw rfl)).2.1 true).symm
  case h_7 =>
    cases h
    refine ⟨_, clause_foreign, ?_⟩
    rw [truth_typeCondition (raw rfl), (reportedKind_typed known (raw rfl)).2.2]
  case h_8 => cases h

theorem reportedKind_ok (typed : Bool) (known : r.get? column = some (.text schema)) :
    ∃ kind, reportedKind typed column r = .ok kind ∧
      ((typed = true → CatalogType (r.getD "table_type")) →
        ∀ name ∈ tableTypes, kind = .text name → (supportedTypes typed).contains name = true) := by
  cases typed with
  | false =>
    refine ⟨_, reportedKind_untyped known, fun _ name _ same => ?_⟩
    obtain rfl := Datum.text.inj same
    split <;> decide
  | true =>
    have value : r.getD column = .text schema := by simp [Record.getD, known]
    rw [reportedKind, if_pos rfl, value]
    exact ⟨_, rfl, fun _ name mem _ => by simpa [supportedTypes] using mem⟩

theorem reportedTable_type {row : TableRow} (h : reportedTable typed column r = .ok row) :
    reportedKind typed column r = .ok row.type := by
  have present : ∀ {d : Datum}, r.require column = .ok d → r.getD column = d := by
    intro d required
    unfold Record.require at required
    split at required
    · next found =>
      cases required
      simp [Record.getD, found]
    · cases required
  cases typed with
  | false =>
    rw [reportedTable, if_neg (by simp), legacyTable] at h
    obtain ⟨schema, required, h⟩ := bind_eq_ok h
    obtain ⟨name, -, h⟩ := bind_eq_ok h
    obtain ⟨kind, reported, h⟩ := bind_eq_ok h
    cases h
    rw [reportedKind, if_neg (by simp), present required, reported]
    rfl
  | true =>
    rw [reportedTable, if_pos rfl, extendedTable] at h
    obtain ⟨schema, required, h⟩ := bind_eq_ok h
    obtain ⟨name, -, h⟩ := bind_eq_ok h
    obtain ⟨kind, reported, h⟩ := bind_eq_ok h
    obtain ⟨generation, -, h⟩ := bind_eq_ok h
    cases h
    rw [reportedKind, if_pos rfl, present required, reported]

theorem mem_tableTypes_of_supported (told : (supportedTypes typed).contains kind = true) :
    kind ∈ tableTypes := by
  have mem : kind ∈ supportedTypes typed := by simpa using told
  cases typed with
  | true => exact mem
  | false =>
    simp only [supportedTypes, Bool.false_eq_true, if_false, List.mem_cons, List.not_mem_nil,
      or_false] at mem
    rcases mem with rfl | rfl <;> decide

/-! ### The condition for the requested kinds -/

theorem condition?_disjunction {row : String → Datum} {holds : String → Prop} {texts : List String}
    (clauses : ∀ text ∈ texts, ∃ c, Clause q text c ∧ (c.truth row = some true ↔ holds text)) :
    ∃ text c, (disjunction texts).render q = .ok text ∧ q.condition? text.toList = some c ∧
      (c.truth row = some true ↔ ∃ text ∈ texts, holds text) := by
  have render : ∀ text : String, (Fragment.trusted text).render q = .ok text := by
    intro text
    exact congrArg Except.ok (by simp [String.join])
  match texts with
  | [] =>
    refine ⟨_, .equal (.constant (.int 1)) (.constant (.int 0)), render "1 = 0",
      by cases q <;> rfl, ?_⟩
    have never : (Condition.equal (.constant (.int 1)) (.constant (.int 0))).truth row =
        some false := rfl
    simp [never]
  | [text] =>
    obtain ⟨c, clause, truth⟩ := clauses text List.mem_cons_self
    exact ⟨text, c, render text, clause.condition?, by simp [truth]⟩
  | text :: next :: texts =>
    obtain ⟨c, read, truth⟩ := condition?_alternatives (by simp) clauses
    exact ⟨_, c, render _, read, truth⟩

theorem mem_demandedKinds {kinds : List String} :
    kind ∈ demandedKinds typed kinds ↔
      kind ∈ kinds.map normalizeKind ∧ (supportedTypes typed).contains kind = true := by
  rw [demandedKinds, List.mem_eraseDups, List.mem_filter]

def demandedConditions (typed : Bool) (column : String) (kinds : List String) : List String :=
  ((demandedKinds typed kinds).filterMap (kindCondition? · typed column)).foldl noting []

/-- Whether a condition is the one for a kind that is requested and reported. -/
def Selects (typed : Bool) (column : String) (kinds : List String) (reported : Datum)
    (text : String) : Prop :=
  ∃ name ∈ demandedKinds typed kinds,
    kindCondition? name typed column = some text ∧ reported = .text name

theorem mem_demandedConditions {kinds : List String} :
    text ∈ demandedConditions typed column kinds ↔
      ∃ name ∈ demandedKinds typed kinds, kindCondition? name typed column = some text := by
  rw [demandedConditions, mem_foldl_noting, List.mem_filterMap]
  simp

theorem exists_selects_iff {kinds : List String} {reported : Datum} :
    (∃ text ∈ demandedConditions typed column kinds, Selects typed column kinds reported text) ↔
      ∃ name ∈ demandedKinds typed kinds, reported = .text name := by
  constructor
  · rintro ⟨text, -, name, mem, -, same⟩
    exact ⟨name, mem, same⟩
  · rintro ⟨name, mem, same⟩
    have told : (kindCondition? name typed column).isSome = true := by
      rw [isSome_kindCondition?]
      exact (mem_demandedKinds.mp mem).2
    obtain ⟨text, condition⟩ := Option.isSome_iff_exists.mp told
    exact ⟨text, mem_demandedConditions.mpr ⟨name, mem, condition⟩, name, mem, condition, same⟩

theorem clause_demandedConditions (named : IsSchemaColumn column) {kinds : List String}
    {reported : Datum} (known : r.get? column = some (.text schema))
    (raw : typed = true → CatalogType (r.getD "table_type"))
    (kind : reportedKind typed column r = .ok reported) :
    ∀ text ∈ demandedConditions typed column kinds, ∃ c, Clause q text c ∧
      (c.truth r.getD = some true ↔ Selects typed column kinds reported text) := by
  intro text mem
  obtain ⟨name, demanded, condition⟩ := mem_demandedConditions.mp mem
  obtain ⟨c, clause, truth⟩ := clause_kindCondition? (q := q) named known raw condition
  refine ⟨c, clause, fun holds => ?_, ?_⟩
  · have same := kind.symm.trans (truth.mp holds)
    exact ⟨name, demanded, condition, Except.ok.inj same⟩
  · rintro ⟨other, -, alike, rfl⟩
    -- A text is read as one condition only, whichever kind it is written for.
    obtain ⟨d, also, holds⟩ := clause_kindCondition? (q := q) named known raw alike
    have unique : d = c := Option.some.inj (also.condition?.symm.trans clause.condition?)
    exact unique ▸ holds.mpr kind

/-- The condition for the requested kinds selects the rows that are reported with one of them. -/
theorem kindFilter_selects (typed : Bool) (named : IsSchemaColumn column) (q : Quoting)
    {types : Datum} {kinds : List String}
    (requested : requestedKinds types = .ok (kinds.map .text)) {r : Record} {schema : String}
    (known : r.get? column = some (.text schema))
    (raw : typed = true → CatalogType (r.getD "table_type")) :
    ∃ filter text condition kind,
      (kindFilter types typed column).2 = .ok filter ∧ filter.render q = .ok text ∧
      q.condition? text.toList = some condition ∧
      reportedKind typed column r = .ok kind ∧
      (∀ row, reportedTable typed column r = .ok row → row.type = kind) ∧
      (condition.truth r.getD = some true ↔
        ∃ name ∈ tableTypes, kind = .text name ∧
          name ∈ kinds.map fun asked => String.ofList (Text.upper (Text.trim asked.toList))) := by
  obtain ⟨kind, reported, supported⟩ := reportedKind_ok typed known
  obtain ⟨text, c, rendered, read, truth⟩ :=
    condition?_disjunction (clause_demandedConditions (q := q) named known raw reported)
  refine ⟨_, text, c, kind, kindFilter_requested requested, rendered, read, reported, ?_, ?_⟩
  · intro row answered
    rw [reportedTable_type answered] at reported
    exact Except.ok.inj reported
  · rw [truth, exists_selects_iff]
    constructor
    · rintro ⟨name, mem, rfl⟩
      obtain ⟨demanded, told⟩ := mem_demandedKinds.mp mem
      exact ⟨name, mem_tableTypes_of_supported told, rfl, demanded⟩
    · rintro ⟨name, mem, rfl, demanded⟩
      exact ⟨name, mem_demandedKinds.mpr ⟨demanded, supported raw name mem rfl⟩, rfl⟩

/-- A padded request for tables in small letters, beside others, on a row with a table. -/
theorem kindFilter_selects_table :
    ∃ filter text condition,
      (kindFilter (.list [.text " table\t", .text "queue", .text "view"]) true
        "table_schema").2 = .ok filter ∧ filter.render .standard = .ok text ∧
      Quoting.standard.condition? text.toList = some condition ∧
      condition.truth (Record.getD
        [("table_schema", .text "doc"), ("table_type", .text "BASE TABLE")]) = some true := by
  have known : Record.get? [("table_schema", .text "doc"), ("table_type", .text "BASE TABLE")]
      "table_schema" = some (.text "doc") := rfl
  have raw : CatalogType (Record.getD
      [("table_schema", .text "doc"), ("table_type", .text "BASE TABLE")] "table_type") :=
    Or.inr ⟨"BASE TABLE", rfl, by decide⟩
  have requested :
      requestedKinds (.list [.text " table\t", .text "queue", .text "view"]) =
        .ok ([" table\t", "queue", "view"].map .text) := rfl
  obtain ⟨filter, text, condition, kind, filtered, rendered, read, reported, -, truth⟩ :=
    kindFilter_selects true (Or.inr rfl) .standard requested known (fun _ => raw)
  have table : kind = .text "TABLE" := (Except.ok.inj reported).symm
  exact ⟨filter, text, condition, filtered, rendered, read,
    truth.mpr ⟨"TABLE", by decide, table, by decide +kernel⟩⟩

end SystemCatalog.Catalog.Query
