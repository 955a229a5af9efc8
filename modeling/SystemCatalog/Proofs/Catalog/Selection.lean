import SystemCatalog.Proofs.Catalog.Record
import SystemCatalog.Proofs.Catalog.SelectList

/-!
# Answers report what is selected

Every form of a query selects the columns that its answer is made of, so that an answer reports
what the server has delivered for them, whatever the version: `answer_reports`.
-/

namespace SystemCatalog.Catalog

open Sql

variable {names : List String} {values : List Datum} {r : Record} {name : String}

namespace Query

variable {column sql : String} {version : Version} {form : Form}

/-! ### Selected columns of a form -/

def fieldNames (column : String) : Form → List String
  | .keysAsArray =>
    ["table_cat", "table_schem", "table_name", "column_names", "key_seq", "pk_name"]
  | .keysByColumn =>
    ["table_cat", "table_schem", "table_name", "column_name", "key_seq", "pk_name"]
  | form => formNames column form

theorem recordNames_formNames (named : IsSchemaColumn column) (form : Form) :
    recordNames (formNames column form) = fieldNames column form := by
  have array : recordNames ["TABLE_CAT", "TABLE_SCHEM", "TABLE_NAME", "COLUMN_NAMES", "KEY_SEQ",
      "PK_NAME"] = ["table_cat", "table_schem", "table_name", "column_names", "key_seq", "pk_name"] :=
    by decide +kernel
  have single : recordNames ["TABLE_CAT", "TABLE_SCHEM", "TABLE_NAME", "COLUMN_NAME", "KEY_SEQ",
      "PK_NAME"] = ["table_cat", "table_schem", "table_name", "column_name", "key_seq", "pk_name"] :=
    by decide +kernel
  cases form with
  | keysAsArray => exact array
  | keysByColumn => exact single
  | _ => rcases named with rfl | rfl <;> exact recordNames_small (by decide)

theorem nodup_fieldNames (named : IsSchemaColumn column) (form : Form) :
    (fieldNames column form).Nodup := by
  rcases named with rfl | rfl <;> cases form <;> decide

theorem formNames_ne_nil (column : String) (form : Form) : formNames column form ≠ [] := by
  intro empty
  cases form <;> cases empty

theorem selected {fields : List String} (small : recordNames names = fields)
    (h : Carries (recordNames names) values r) {field : String}
    (found : fields.find? (sources field).contains = some name) :
    ∃ d, Selected names values field d ∧ r.get? name = some d ∧ admits name d = true := by
  subst small
  obtain ⟨d, paired, known, admitted⟩ := h.value (List.mem_of_find?_eq_some found)
  exact ⟨d, ⟨name, found, paired⟩, known, admitted⟩

theorem find_schema (named : IsSchemaColumn column)
    (kind : form.kind = .tables ∨ form.kind = .columns) :
    (fieldNames column form).find? (sources "table_schem").contains = some column := by
  cases form with
  | tablesLegacy | tablesExtended | columnsLegacy | columnsExtended =>
    rcases named with rfl | rfl <;> rfl
  | keysAsArray | keysByColumn | schemas => simp [Form.kind] at kind

theorem find_keySchema (known : form = .keysAsArray ∨ form = .keysByColumn) :
    (fieldNames column form).find? (sources "table_schem").contains = some "table_schem" := by
  rcases known with rfl | rfl <;> rfl

theorem find_table (named : IsSchemaColumn column) (kind : form.kind ≠ .schemas) :
    (fieldNames column form).find? (sources "table_name").contains = some "table_name" := by
  cases form with
  | tablesLegacy | tablesExtended | columnsLegacy | columnsExtended =>
    rcases named with rfl | rfl <;> rfl
  | keysAsArray | keysByColumn => rfl
  | schemas => exact absurd rfl kind

theorem find_column (named : IsSchemaColumn column)
    (known : form.kind = .columns ∨ form = .keysByColumn) :
    (fieldNames column form).find? (sources "column_name").contains = some "column_name" := by
  cases form with
  | columnsLegacy | columnsExtended => rcases named with rfl | rfl <;> rfl
  | keysByColumn => rfl
  | tablesLegacy | tablesExtended | keysAsArray | schemas => simp [Form.kind] at known

/-! ### Rows of answers -/

def Shows (q : Query) (names : List String) (values : List Datum) (row : Row) (name : String) :
    Prop :=
  ∃ d, Selected names values name d ∧ q.field? row name = some (.value d)

theorem reports_single {q : Query} {row : Row} (single : q.form ≠ .keysAsArray)
    (schema : q.Shows names values row "table_schem")
    (table : "table_name" ∈ q.columns → q.Shows names values row "table_name")
    (column : "column_name" ∈ q.columns → q.Shows names values row "column_name") :
    q.Reports names values [row] where
  single _ := rfl
  numbered array := absurd array single
  fields other mem name field known _ := by
    obtain rfl := List.mem_singleton.mp mem
    simp only [List.mem_cons, List.not_mem_nil, or_false] at field
    rcases field with rfl | rfl | rfl
    · exact schema
    · exact table known
    · exact column known

theorem reports_table {row : TableRow} (single : form ≠ .keysAsArray)
    (schema : Selected names values "table_schem" row.schema)
    (table : Selected names values "table_name" row.name) :
    (Query.mk .tables form sql version column).Reports names values [.table row] := by
  refine reports_single single ⟨_, schema, rfl⟩ (fun _ => ⟨_, table, rfl⟩) fun known => ?_
  exact absurd known (by decide : "column_name" ∉ Kind.tables.fields)

theorem reports_column {row : ColumnRow} (single : form ≠ .keysAsArray)
    (schema : Selected names values "table_schem" row.schema)
    (table : Selected names values "table_name" row.table)
    (name : Selected names values "column_name" row.name) :
    (Query.mk .columns form sql version column).Reports names values [.column row] :=
  reports_single single ⟨_, schema, rfl⟩ (fun _ => ⟨_, table, rfl⟩) fun _ => ⟨_, name, rfl⟩

theorem reports_key {row : PrimaryKeyRow} (single : form ≠ .keysAsArray)
    (schema : Selected names values "table_schem" row.schema)
    (table : Selected names values "table_name" row.table)
    (name : Selected names values "column_name" row.column) :
    (Query.mk .primaryKeys form sql version column).Reports names values [.primaryKey row] :=
  reports_single single ⟨_, schema, rfl⟩ (fun _ => ⟨_, table, rfl⟩) fun _ => ⟨_, name, rfl⟩

theorem reports_schema {row : SchemaRow} (single : form ≠ .keysAsArray)
    (schema : Selected names values "table_schem" row.name) :
    (Query.mk .schemas form sql version column).Reports names values [.schema row] := by
  refine reports_single single ⟨_, schema, rfl⟩ (fun known => ?_) fun known => ?_
  · exact absurd known (by decide : "table_name" ∉ Kind.schemas.fields)
  · exact absurd known (by decide : "column_name" ∉ Kind.schemas.fields)

/-! ### Values that can be read -/

theorem isSystemSchema_ok {d : Datum} (text : isTextOrNull d = true) :
    ∃ system, isSystemSchema d = .ok system := by
  cases d with
  | null => exact ⟨_, rfl⟩
  | text s => exact ⟨_, rfl⟩
  | _ => cases text

theorem isTextOrNull_of_admits (named : IsSchemaColumn column) {d : Datum}
    (admitted : admits column d = true) : isTextOrNull d = true := by
  rcases named with rfl | rfl <;> exact admitted

theorem referenceGeneration_ok {d : Datum} (text : isTextOrNull d = true) :
    ∃ generation, referenceGeneration d = .ok generation := by
  unfold referenceGeneration
  split
  · exact ⟨_, rfl⟩
  · exact ⟨_, rfl⟩
  · cases d with
    | null => exact ⟨_, rfl⟩
    | text s => exact ⟨_, rfl⟩
    | _ => cases text

theorem whole_ok {d : Datum} (number : (isIntOrNull d && !d.isNull) = true) :
    ∃ n, d.whole = .ok n := by
  cases d with
  | int n => exact ⟨n, rfl⟩
  | _ => cases number

theorem whole?_ok {d : Datum} (number : isIntOrNull d = true) : ∃ n, whole? d = .ok n := by
  cases d with
  | null => exact ⟨none, rfl⟩
  | int n => exact ⟨some n, rfl⟩
  | _ => cases number

theorem columnNames_ok {d : Datum} {elements : List String} (read : texts? d = some elements) :
    columnNames d = .ok elements := by
  cases d with
  | null => exact congrArg Except.ok (Option.some.inj read)
  | list items =>
    refine congrArg Except.ok ?_
    rw [texts?] at read
    induction items generalizing elements with
    | nil => exact Option.some.inj read
    | cons item items ih =>
      rw [List.mapM_cons] at read
      cases item with
      | text s =>
        obtain ⟨_, first, rest⟩ := Option.bind_eq_some_iff.mp read
        obtain ⟨others, more, whole⟩ := Option.bind_eq_some_iff.mp rest
        cases first
        cases whole
        rw [List.map_cons, ih more]
        rfl
      | _ => cases read
  | _ => cases read

/-! ### Tables -/

theorem legacyTable_reports (named : IsSchemaColumn column)
    (small : recordNames names = fieldNames column .tablesLegacy)
    (h : Carries (recordNames names) values r) :
    ∃ row, legacyTable column r = .ok row ∧
      (Query.mk .tables .tablesLegacy sql version column).Reports names values [.table row] := by
  obtain ⟨schema, schemaSelected, schemaKnown, text⟩ :=
    selected small h (find_schema named (Or.inl rfl))
  obtain ⟨table, tableSelected, tableKnown, -⟩ := selected small h (find_table named (by decide))
  obtain ⟨system, known⟩ := isSystemSchema_ok (isTextOrNull_of_admits named text)
  have read : legacyTable column r = .ok ⟨.null, schema, table,
      .text (if system then "SYSTEM TABLE" else "TABLE"), .text "_id", .text "SYSTEM"⟩ := by
    simp only [legacyTable, Record.require_ok schemaKnown, Record.require_ok tableKnown, legacyKind,
      known, bind, Except.bind, pure, Except.pure]
  exact ⟨_, read, reports_table (by decide) schemaSelected tableSelected⟩

theorem extendedTable_reports (named : IsSchemaColumn column)
    (small : recordNames names = fieldNames column .tablesExtended)
    (h : Carries (recordNames names) values r) :
    ∃ row, extendedTable column r = .ok row ∧
      (Query.mk .tables .tablesExtended sql version column).Reports names values [.table row] := by
  have generationNamed : "reference_generation" ∈ recordNames names := by
    rw [small]
    rcases named with rfl | rfl <;> decide
  obtain ⟨schema, schemaSelected, schemaKnown, text⟩ :=
    selected small h (find_schema named (Or.inl rfl))
  obtain ⟨table, tableSelected, tableKnown, -⟩ := selected small h (find_table named (by decide))
  obtain ⟨word, -, wordKnown, wordText⟩ := h.value generationNamed
  obtain ⟨system, known⟩ := isSystemSchema_ok (isTextOrNull_of_admits named text)
  obtain ⟨generation, generated⟩ := referenceGeneration_ok wordText
  obtain ⟨kind, kindKnown⟩ : ∃ kind, extendedKind (r.getD "table_type") schema = .ok kind := by
    rw [extendedKind, known]
    exact ⟨_, rfl⟩
  have read : extendedTable column r = .ok ⟨r.getD "table_catalog", schema, table, kind,
      r.getD "self_referencing_column_name", generation⟩ := by
    simp only [extendedTable, Record.require_ok schemaKnown, Record.require_ok tableKnown, kindKnown,
      Record.getD_eq wordKnown, generated, bind, Except.bind, pure, Except.pure]
  exact ⟨_, read, reports_table (by decide) schemaSelected tableSelected⟩

/-! ### Columns -/

theorem legacyColumn_reports (named : IsSchemaColumn column)
    (small : recordNames names = fieldNames column .columnsLegacy)
    (h : Carries (recordNames names) values r) :
    ∃ row, legacyColumn column r = .ok row ∧
      (Query.mk .columns .columnsLegacy sql version column).Reports names values [.column row] := by
  have positionNamed : "ordinal_position" ∈ recordNames names := by
    rw [small]
    rcases named with rfl | rfl <;> decide
  obtain ⟨schema, schemaSelected, schemaKnown, -⟩ :=
    selected small h (find_schema named (Or.inr rfl))
  obtain ⟨table, tableSelected, tableKnown, -⟩ := selected small h (find_table named (by decide))
  obtain ⟨name, nameSelected, nameKnown, -⟩ := selected small h (find_column named (Or.inl rfl))
  obtain ⟨number, -, numberKnown, numeric⟩ := h.value positionNamed
  obtain ⟨position, positioned⟩ := whole_ok numeric
  have read : legacyColumn column r = .ok ⟨.null, schema, table, name, r.getD "data_type", none, none,
      some 10, true, .null, position, false⟩ := by
    simp only [legacyColumn, Record.require_ok schemaKnown, Record.require_ok tableKnown,
      Record.require_ok nameKnown, Record.require_ok numberKnown, positioned, bind, Except.bind, pure,
      Except.pure]
  exact ⟨_, read, reports_column (by decide) schemaSelected tableSelected nameSelected⟩

theorem extendedColumn_reports (named : IsSchemaColumn column)
    (small : recordNames names = fieldNames column .columnsExtended)
    (h : Carries (recordNames names) values r) (generated : Strategy.GeneratedForm) :
    ∃ row, extendedColumn generated column r = .ok row ∧
      (Query.mk .columns .columnsExtended sql version column).Reports names values
        [.column row] := by
  have others : ∀ name ∈ ["ordinal_position", "character_octet_length", "numeric_precision",
      "numeric_precision_radix"], name ∈ recordNames names := by
    rw [small]
    rcases named with rfl | rfl <;> decide
  obtain ⟨schema, schemaSelected, schemaKnown, -⟩ :=
    selected small h (find_schema named (Or.inr rfl))
  obtain ⟨table, tableSelected, tableKnown, -⟩ := selected small h (find_table named (by decide))
  obtain ⟨name, nameSelected, nameKnown, -⟩ := selected small h (find_column named (Or.inl rfl))
  obtain ⟨number, -, numberKnown, numeric⟩ := h.value (others "ordinal_position" (by decide))
  obtain ⟨length, -, lengthKnown, lengthNumeric⟩ :=
    h.value (others "character_octet_length" (by decide))
  obtain ⟨precision, -, precisionKnown, precisionNumeric⟩ :=
    h.value (others "numeric_precision" (by decide))
  obtain ⟨base, -, baseKnown, baseNumeric⟩ := h.value (others "numeric_precision_radix" (by decide))
  obtain ⟨position, positioned⟩ := whole_ok numeric
  obtain ⟨size, sized⟩ := whole?_ok lengthNumeric
  obtain ⟨digits, precise⟩ := whole?_ok precisionNumeric
  obtain ⟨radix, based⟩ := whole?_ok baseNumeric
  have read : extendedColumn generated column r = .ok ⟨r.getD "table_catalog", schema, table, name,
      r.getD "data_type", size, digits, radix, saysYes (r.getD "is_nullable"),
      r.getD "column_default", position, saysGenerated generated (r.getD "is_generated")⟩ := by
    simp only [extendedColumn, Record.require_ok schemaKnown, Record.require_ok tableKnown,
      Record.require_ok nameKnown, Record.require_ok numberKnown, Record.getD_eq lengthKnown,
      Record.getD_eq precisionKnown, Record.getD_eq baseKnown, positioned, sized, precise, based,
      bind, Except.bind, pure, Except.pure]
  exact ⟨_, read, reports_column (by decide) schemaSelected tableSelected nameSelected⟩

/-! ### Primary keys and schemas -/

theorem keyFromColumn_reports (named : IsSchemaColumn column)
    (small : recordNames names = fieldNames column .keysByColumn)
    (h : Carries (recordNames names) values r) :
    ∃ row, keyFromColumn r = .ok row ∧
      (Query.mk .primaryKeys .keysByColumn sql version column).Reports names values
        [.primaryKey row] := by
  have positionNamed : "key_seq" ∈ recordNames names := by
    rw [small, fieldNames]
    decide
  obtain ⟨schema, schemaSelected, schemaKnown, -⟩ := selected small h (find_keySchema (Or.inr rfl))
  obtain ⟨table, tableSelected, tableKnown, -⟩ := selected small h (find_table named (by decide))
  obtain ⟨name, nameSelected, nameKnown, -⟩ := selected small h (find_column named (Or.inr rfl))
  obtain ⟨number, -, numberKnown, numeric⟩ := h.value positionNamed
  obtain ⟨position, positioned⟩ := whole_ok numeric
  have read : keyFromColumn r = .ok ⟨r.getD "table_cat", schema, table, name, position,
      r.getD "pk_name"⟩ := by
    simp only [keyFromColumn, Record.getD_eq schemaKnown, Record.require_ok tableKnown,
      Record.require_ok nameKnown, Record.require_ok numberKnown, positioned, bind, Except.bind, pure,
      Except.pure]
  exact ⟨_, read, reports_key (by decide) schemaSelected tableSelected nameSelected⟩

theorem schemaRow_reports (small : recordNames names = fieldNames column .schemas)
    (h : Carries (recordNames names) values r) :
    ∃ row, schemaRow r = .ok row ∧
      (Query.mk .schemas .schemas sql version column).Reports names values [.schema row] := by
  have found : (fieldNames column .schemas).find? (sources "table_schem").contains =
      some "schema_name" := rfl
  obtain ⟨schema, schemaSelected, schemaKnown, -⟩ := selected small h found
  have read : schemaRow r = .ok ⟨schema⟩ := by
    simp only [schemaRow, Record.require_ok schemaKnown, bind, Except.bind, pure, Except.pure]
  exact ⟨_, read, reports_schema (by decide) schemaSelected⟩

/-- The keys that stand in an array are numbered in its order. -/
theorem keyFromArray_reports (named : IsSchemaColumn column)
    (small : recordNames names = fieldNames column .keysAsArray)
    (h : Carries (recordNames names) values r) :
    ∃ rows, keyFromArray r = .ok rows ∧
      (Query.mk .primaryKeys .keysAsArray sql version column).Reports names values
        (rows.map .primaryKey) := by
  have arrayFound : (fieldNames column .keysAsArray).find? (sources "column_names").contains =
      some "column_names" := rfl
  obtain ⟨schema, schemaSelected, schemaKnown, -⟩ := selected small h (find_keySchema (Or.inl rfl))
  obtain ⟨table, tableSelected, tableKnown, -⟩ := selected small h (find_table named (by decide))
  obtain ⟨array, arraySelected, arrayKnown, texts⟩ := selected small h arrayFound
  obtain ⟨elements, read⟩ := Option.isSome_iff_exists.mp texts
  let key (p : String × Nat) : PrimaryKeyRow :=
    ⟨r.getD "table_cat", schema, table, .text p.1, p.2, r.getD "pk_name"⟩
  refine ⟨elements.zipIdx.map key, ?_, ?_, ?_, ?_⟩
  · simp only [keyFromArray, Record.getD_eq arrayKnown, columnNames_ok read, bind, Except.bind,
      Record.require_ok tableKnown, Record.getD_eq schemaKnown]
    exact List.mapM_pure
  · exact fun other => absurd rfl other
  · refine fun _ => ⟨array, elements, arraySelected, read, ?_⟩
    rw [List.map_map, List.map_map]
    rfl
  · intro row mem name field known single
    obtain ⟨_, made, rfl⟩ := List.mem_map.mp mem
    obtain ⟨p, -, rfl⟩ := List.mem_map.mp made
    simp only [List.mem_cons, List.not_mem_nil, or_false] at field
    rcases field with rfl | rfl | rfl
    · exact ⟨schema, schemaSelected, rfl⟩
    · exact ⟨table, tableSelected, rfl⟩
    · exact absurd rfl (single rfl)

/-! ### Whole results -/

variable {records : List Record} {results : List (List Datum)}

theorem mapM_reports {f : Record → Except Fault Row} {q : Query}
    (step : ∀ values r, Carries (recordNames names) values r →
      ∃ row, f r = .ok row ∧ q.Reports names values [row])
    (carried : List.Forall₂ (Carries (recordNames names)) results records) :
    ∃ groups, records.mapM f = .ok groups.flatten ∧ List.Forall₂ (q.Reports names) results groups := by
  obtain ⟨rows, read, all⟩ := mapM_forall₂ carried fun values _ r carries => step values r carries
  refine ⟨rows.map ([·]), ?_, List.forall₂_map_right_iff.mpr all⟩
  rw [read, ← List.flatMap_def, List.flatMap_singleton']

theorem answer_groups (engine : version.IsEngine) (named : IsSchemaColumn column) (form : Form)
    (small : recordNames names = fieldNames column form)
    (carried : List.Forall₂ (Carries (recordNames names)) results records) :
    ∃ groups, (Query.mk form.kind form sql version column).answer records = .ok groups.flatten ∧
      List.Forall₂ ((Query.mk form.kind form sql version column).Reports names) results groups := by
  cases form with
  | tablesLegacy =>
    refine mapM_reports (fun values r carries => ?_) carried
    obtain ⟨row, read, reports⟩ := legacyTable_reports named small carries
    exact ⟨.table row, by rw [read]; rfl, reports⟩
  | tablesExtended =>
    refine mapM_reports (fun values r carries => ?_) carried
    obtain ⟨row, read, reports⟩ := extendedTable_reports named small carries
    exact ⟨.table row, by rw [read]; rfl, reports⟩
  | columnsLegacy =>
    refine mapM_reports (fun values r carries => ?_) carried
    obtain ⟨row, read, reports⟩ := legacyColumn_reports named small carries
    exact ⟨.column row, by rw [read]; rfl, reports⟩
  | columnsExtended =>
    obtain ⟨generated, selected⟩ : ∃ generated, Strategy.generatedForm.select version = .ok generated :=
      Strategy.select_isEngine engine
    simp only [answer, selected, bind, Except.bind]
    refine mapM_reports (fun values r carries => ?_) carried
    obtain ⟨row, read, reports⟩ := extendedColumn_reports named small carries generated
    exact ⟨.column row, by rw [read]; rfl, reports⟩
  | keysAsArray =>
    have step : ∀ values ∈ results, ∀ r, Carries (recordNames names) values r →
        ∃ rows, keyFromArray r = .ok rows ∧
          (Query.mk .primaryKeys .keysAsArray sql version column).Reports names values
            (rows.map .primaryKey) :=
      fun values _ r carries => keyFromArray_reports named small carries
    obtain ⟨groups, read, all⟩ := mapM_forall₂ carried step
    refine ⟨groups.map (List.map .primaryKey), ?_, List.forall₂_map_right_iff.mpr all⟩
    simp only [answer, read, bind, Except.bind, pure, Except.pure, List.map_flatten]
  | keysByColumn =>
    refine mapM_reports (fun values r carries => ?_) carried
    obtain ⟨row, read, reports⟩ := keyFromColumn_reports named small carries
    exact ⟨.primaryKey row, by rw [read]; rfl, reports⟩
  | schemas =>
    refine mapM_reports (fun values r carries => ?_) carried
    obtain ⟨row, read, reports⟩ := schemaRow_reports small carries
    exact ⟨.schema row, by rw [read]; rfl, reports⟩

end Query

/-! ### Statements -/

namespace Searchable

variable {kind : Kind} {f : Filters}

theorem sameShape (h : Searchable kind f) :
    ∀ a ∈ kind.arguments, Query.SameShape kind a (f.value a) (f.value a) := by
  intro a mem
  rcases h.patterns a mem with null | ⟨s, text, zero⟩
  · rw [null]
    refine .absent fun keys => ?_
    subst keys
    rcases List.mem_cons.mp mem with rfl | mem
    · exact absurd null (h.table rfl)
    · exact List.mem_singleton.mp mem
  · rw [text]
    by_cases written : Query.isWritten kind (.text s) = true
    · exact .filled written written zero zero
    · simp only [Query.isWritten, Bool.or_eq_true, decide_eq_true_eq, bne_iff_ne, ne_eq, not_or,
        not_not] at written
      obtain ⟨search, rfl⟩ := written
      exact .blank search

theorem sameTypes (h : Searchable kind f) (version : Version) :
    Query.SameTypes version f.types f.types := by
  rcases h.types with null | ⟨kinds, requested⟩
  · rw [null]
    exact .absent
  · exact .requested requested requested rfl

end Searchable

namespace Query

variable {version : Version} {kind : Kind} {f : Filters}

/-- Every engine version has a statement for a lookup, and it selects the columns of its form. -/
theorem draft_selects (engine : version.IsEngine) (q : Quoting) (h : Searchable kind f) :
    ∃ column form sql, IsSchemaColumn column ∧ form.kind = kind ∧
      (draft version q kind f).query = .ok ⟨kind, form, sql, version, column⟩ ∧
      q.selectedNames? sql.toList = some (formNames column form) := by
  obtain ⟨column, selected⟩ : ∃ column, Strategy.schemaColumn.select version = .ok column :=
    Strategy.select_isEngine engine
  have named : IsSchemaColumn column := Strategy.select_sinceThen selected
  obtain ⟨form, S, _, composed, -, parallel⟩ :=
    compose_parallel (q := q) engine named (h.sameTypes version) h.sameShape
  obtain ⟨sql, _, rendered, -, tokens, _, _, read, -⟩ := parallel.readAlike
  obtain ⟨answers, items, ⟨rest, text⟩, listed⟩ := compose_lists named composed rendered
  refine ⟨column, form, sql, named, answers, ?_, ?_⟩
  · simp only [draft, selected, composed, bind, Except.bind, rendered, pure, Except.pure]
  · have inhabited : items ≠ [] := by
      rintro rfl
      exact formNames_ne_nil column form (List.forall₂_nil_left_iff.mp listed)
    rw [text] at read ⊢
    exact selectedNames?_select listed inhabited (by rw [read]; rfl)

/-- Every engine version has a statement for a lookup.  Whatever a driver delivers for the columns
that the statement selects is answered without a fault, row by row and in the same order, and the
answer reports the schema, the table and the column that are selected. -/
theorem answer_reports (engine : version.IsEngine) (q : Quoting) (h : Searchable kind f) :
    ∃ query names, (draft version q kind f).query = .ok query ∧
      q.selectedNames? query.sql.toList = some names ∧
      ∀ (description : Option (List Datum)) (results : List (List Datum)) (raw : List RawRow),
        List.Forall₂ (Delivers names description) results raw →
        (∀ values ∈ results, Admitted names values) →
        ∃ records groups, Record.ofResult description raw = .ok records ∧
          query.answer records = .ok groups.flatten ∧
          List.Forall₂ (query.Reports names) results groups := by
  obtain ⟨column, form, sql, named, rfl, drafted, read⟩ := draft_selects engine q h
  refine ⟨_, _, drafted, read, fun description results raw delivered admitted => ?_⟩
  have small := recordNames_formNames named form
  have distinct : (recordNames (formNames column form)).Nodup := by
    rw [small]
    exact nodup_fieldNames named form
  obtain ⟨records, converted, carried⟩ := mapM_forall₂ delivered fun values mem row delivers =>
    delivers.carries distinct (formNames_ne_nil column form) (admitted values mem)
  obtain ⟨groups, answered, reports⟩ : ∃ groups : List (List Row),
      (Query.mk form.kind form sql version column).answer records = .ok groups.flatten ∧ _ :=
    answer_groups engine named form small carried
  exact ⟨records, groups, converted, answered, reports⟩

/-- A table of an old engine, which the driver delivers as a dictionary with capital letters in its
keys. -/
theorem answer_reports_tables :
    ∃ query names, (draft (.ofInts 0 55 0) .standard .tables {}).query = .ok query ∧
      Quoting.standard.selectedNames? query.sql.toList = some names ∧
      ∃ records groups,
        Record.ofResult none
          [.mapping [(.text "TABLE_NAME", .text "nodes"), (.text "Schema_Name", .text "sys")]] =
            .ok records ∧
        query.answer records = .ok groups.flatten ∧
        List.Forall₂ (query.Reports names) [[.text "sys", .text "nodes"]] groups := by
  have engine : (Version.ofInts 0 55 0).IsEngine := ⟨0, 55, 0, rfl⟩
  have searchable : Searchable .tables {} := by
    refine ⟨fun a mem => Or.inl ?_, fun keys => absurd keys (by decide), Or.inl rfl⟩
    cases a <;> rfl
  obtain ⟨query, names, drafted, read, answers⟩ := answer_reports engine .standard searchable
  have listed : (match (draft (.ofInts 0 55 0) .standard .tables {}).query with
      | .ok query => Quoting.standard.selectedNames? query.sql.toList
      | .error _ => none) = some ["schema_name", "table_name"] := by
    decide +kernel
  rw [drafted] at listed
  obtain rfl := Option.some.inj (read.symm.trans listed)
  have name : Record.fieldName (.text "TABLE_NAME") = "table_name" := by decide +kernel
  have schema : Record.fieldName (.text "Schema_Name") = "schema_name" := by decide +kernel
  have small : recordNames ["schema_name", "table_name"] = ["schema_name", "table_name"] :=
    recordNames_small (by decide)
  refine ⟨query, _, drafted, read, answers _ _ _ (.cons (.mapping ?_ rfl) .nil) ?_⟩
  · rw [small, List.map_cons, List.map_cons, name, schema]
    exact .swap ..
  · intro values mem
    obtain rfl := List.mem_singleton.mp mem
    rw [Admitted, small]
    decide

end Query

end SystemCatalog.Catalog
