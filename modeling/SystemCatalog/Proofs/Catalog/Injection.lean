import SystemCatalog.Proofs.Catalog.Kinds
import SystemCatalog.Proofs.Catalog.Strategy

/-!
# What callers search for stays inside of literals

Two lookups of one shape have statements that a server reads alike, whatever the patterns are:
`draft_readAlike`.
-/

namespace SystemCatalog.Catalog.Query

open Sql

variable {q : Quoting} {f g : Filters} {column : String}

def IsSchemaColumn (column : String) : Prop := column = "schema_name" ∨ column = "table_schema"

theorem IsSchemaColumn.quotes (h : IsSchemaColumn column) : '\'' ∉ column.toList := by
  rcases h with rfl | rfl <;> exact quotes_ofList (by decide)

/-! ### Names of columns -/

theorem quotes_tableColumns (named : IsSchemaColumn column) (form : Form) :
    ∀ text ∈ tableColumns form column, '\'' ∉ text.toList := by
  have schema : '\'' ∉ column.toList := named.quotes
  unfold tableColumns
  intro text mem
  split at mem
  all_goals
    simp only [List.cons_append, List.nil_append, List.mem_cons, List.not_mem_nil, or_false] at mem
    obtain rfl | mem := mem
    · exact schema
  · rcases mem with rfl | rfl | rfl | rfl | rfl
    all_goals exact quotes_ofList (by decide)
  · subst mem
    exact quotes_ofList (by decide)

theorem quotes_columnColumns (named : IsSchemaColumn column) (form : Form) :
    ∀ text ∈ columnColumns form column, '\'' ∉ text.toList := by
  have schema : '\'' ∉ column.toList := named.quotes
  unfold columnColumns
  intro text mem
  split at mem
  all_goals
    simp only [List.cons_append, List.nil_append, List.mem_cons, List.not_mem_nil, or_false] at mem
    obtain rfl | mem := mem
    · exact schema
  · rcases mem with rfl | rfl | rfl | rfl | rfl | rfl | rfl | rfl | rfl | rfl | rfl
    all_goals exact quotes_ofList (by decide)
  · rcases mem with rfl | rfl | rfl | rfl
    all_goals exact quotes_ofList (by decide)

theorem quotes_keyColumns {schemaColumn catalogField schemaField : String} (form : Form)
    (schema : '\'' ∉ schemaColumn.toList) (catalog : '\'' ∉ catalogField.toList)
    (field : '\'' ∉ schemaField.toList) :
    ∀ pair ∈ keyColumns form schemaColumn catalogField schemaField,
      '\'' ∉ pair.1.toList ∧ '\'' ∉ pair.2.toList := by
  unfold keyColumns
  intro pair mem
  split at mem
  all_goals
    simp only [List.mem_cons, List.not_mem_nil, or_false] at mem
    rcases mem with rfl | rfl | rfl | rfl | rfl | rfl
    all_goals refine ⟨?_, quotes_ofList (by decide)⟩
    all_goals first | assumption | exact quotes_ofList (by decide)

theorem quotes_aliased {columns : List (String × String)}
    (quotes : ∀ pair ∈ columns, '\'' ∉ pair.1.toList ∧ '\'' ∉ pair.2.toList) :
    ∀ text ∈ aliased columns, '\'' ∉ text.toList := by
  intro text mem
  obtain ⟨pair, listed, rfl⟩ := List.mem_map.mp mem
  obtain ⟨expression, name⟩ := quotes pair listed
  exact quotes_append (quotes_append expression (quotes_ofList (by decide))) name

/-! ### The four kinds -/

theorem tables_parallel (named : IsSchemaColumn column) (form : Form)
    (shape : ∀ a ∈ Kind.tables.arguments, SameShape .tables a (f.value a) (g.value a))
    {kinds : Fragment} (requested : Parallel q f g [] kinds kinds) :
    ∃ S T, tables form column f kinds = .ok S ∧ tables form column g kinds = .ok T ∧
      Parallel q f g (written .tables f) S T := by
  have schema : Parallel q f g _ (matching column f.schema) (matching column g.schema) :=
    .matching (by decide) named.quotes (shape .schema (by decide))
  have table : Parallel q f g _ (matching? "table_name" f.table) (matching? "table_name" g.table) :=
    .matching? (by decide) (quotes_ofList (by decide)) (shape .table (by decide))
  have condition := Parallel.conjunction (.cons schema (.cons table (.cons requested .nil)))
  have arguments : [Argument.schema, .table].filter (fun a => isWritten .tables (f.value a)) =
      written .tables f := rfl
  rw [List.append_nil, List.append_nil, ← List.filter_append, List.singleton_append, arguments]
    at condition
  apply statement_parallel condition
  · exact quotes_tableColumns named form
  · exact quotes_ofList (by decide)
  · intro text mem
    rcases List.mem_cons.mp mem with rfl | mem
    · exact named.quotes
    · obtain rfl := List.mem_singleton.mp mem
      exact quotes_ofList (by decide)

theorem columnsOf_parallel (named : IsSchemaColumn column) (form : Form)
    (shape : ∀ a ∈ Kind.columns.arguments, SameShape .columns a (f.value a) (g.value a)) :
    ∃ S T, columnsOf form column f = .ok S ∧ columnsOf form column g = .ok T ∧
      Parallel q f g (written .columns f) S T := by
  have schema : Parallel q f g _ (matching column f.schema) (matching column g.schema) :=
    .matching (by decide) named.quotes (shape .schema (by decide))
  have table : Parallel q f g _ (matching? "table_name" f.table) (matching? "table_name" g.table) :=
    .matching? (by decide) (quotes_ofList (by decide)) (shape .table (by decide))
  have name : Parallel q f g _ (matching? "column_name" f.column)
      (matching? "column_name" g.column) :=
    .matching? (by decide) (quotes_ofList (by decide)) (shape .column (by decide))
  have topLevel : Parallel q f g [] topLevelOnly topLevelOnly :=
    .trusted (legible_ofList (by decide) (by cases q <;> decide))
  have condition := Parallel.conjunction
    (.cons schema (.cons table (.cons name (.cons topLevel .nil))))
  have arguments : [Argument.schema, .table, .column].filter
      (fun a => isWritten .columns (f.value a)) = written .columns f := rfl
  rw [List.append_nil, List.append_nil, ← List.filter_append, ← List.filter_append,
    List.singleton_append, List.singleton_append, arguments] at condition
  apply statement_parallel condition
  · exact quotes_columnColumns named form
  · exact quotes_ofList (by decide)
  · intro text mem
    simp only [List.mem_cons, List.not_mem_nil, or_false] at mem
    rcases mem with rfl | rfl | rfl
    · exact named.quotes
    all_goals exact quotes_ofList (by decide)

theorem keysAsArray_parallel {version : Version} (named : IsSchemaColumn column)
    (shape : ∀ a ∈ Kind.primaryKeys.arguments, SameShape .primaryKeys a (f.value a) (g.value a)) :
    ∃ S T, primaryKeys version .keysAsArray column f = .ok S ∧
      primaryKeys version .keysAsArray column g = .ok T ∧
      Parallel q f g (written .primaryKeys f) S T := by
  have identity : Parallel q f g [] (.trusted "'_id' != ANY(constraint_name)")
      (.trusted "'_id' != ANY(constraint_name)") :=
    .trusted (legible_ofList (by decide) (by cases q <;> decide))
  have table : Parallel q f g _ (equality "table_name" f.table) (equality "table_name" g.table) :=
    .exactName (quotes_ofList (by decide)) (shape .table (by decide))
  have schema : Parallel q f g _ (equality? column f.schema) (equality? column g.schema) :=
    .equality? named.quotes (shape .schema (by decide))
  have condition := Parallel.conjunction (.cons identity (.cons table (.cons schema .nil)))
  have arguments : [Argument.table, .schema].filter (fun a => isWritten .primaryKeys (f.value a)) =
      written .primaryKeys f := rfl
  rw [List.append_nil, List.nil_append, ← List.filter_append, List.singleton_append, arguments]
    at condition
  apply statement_parallel condition
  · have without : '\'' ∉ "".toList := by simp
    exact quotes_aliased (quotes_keyColumns _ named.quotes without without)
  · exact quotes_ofList (by decide)
  · intro text mem
    simp only [List.mem_cons, List.not_mem_nil, or_false] at mem
    rcases mem with rfl | rfl
    all_goals exact quotes_ofList (by decide)

theorem keysByColumn_parallel {version : Version} (engine : version.IsEngine)
    (named : IsSchemaColumn column)
    (shape : ∀ a ∈ Kind.primaryKeys.arguments, SameShape .primaryKeys a (f.value a) (g.value a)) :
    ∃ S T, primaryKeys version .keysByColumn column f = .ok S ∧
      primaryKeys version .keysByColumn column g = .ok T ∧
      Parallel q f g (written .primaryKeys f) S T := by
  obtain ⟨schemaField, schemaSelected⟩ :
      ∃ field, Strategy.keySchemaField.select version = .ok field := Strategy.select_isEngine engine
  obtain ⟨catalogField, catalogSelected⟩ :
      ∃ field, Strategy.keyCatalogField.select version = .ok field :=
    Strategy.select_isEngine engine
  have schemaNames := Strategy.select_sinceThen schemaSelected
  have catalogNames := Strategy.select_sinceThen catalogSelected
  have quotes : '\'' ∉ ("kcu." ++ schemaField).toList := by
    have prefixed : '\'' ∉ "kcu.".toList := quotes_ofList (by decide)
    apply quotes_append prefixed
    rcases schemaNames with rfl | rfl <;> exact quotes_ofList (by decide)
  have catalog : '\'' ∉ catalogField.toList := by
    rcases catalogNames with rfl | rfl <;> exact quotes_ofList (by decide)
  have table : Parallel q f g _ (equality "kcu.table_name" f.table)
      (equality "kcu.table_name" g.table) :=
    .exactName (quotes_ofList (by decide)) (shape .table (by decide))
  have schema : Parallel q f g _ (equality? ("kcu." ++ schemaField) f.schema)
      (equality? ("kcu." ++ schemaField) g.schema) :=
    .equality? quotes (shape .schema (by decide))
  have condition := Parallel.conjunction (.cons table (.cons schema .nil))
  have arguments : [Argument.table, .schema].filter (fun a => isWritten .primaryKeys (f.value a)) =
      written .primaryKeys f := rfl
  rw [List.append_nil, ← List.filter_append, List.singleton_append, arguments] at condition
  simp only [primaryKeys, reduceCtorEq, if_false, schemaSelected, catalogSelected]
  apply statement_parallel condition
  · exact quotes_aliased (quotes_keyColumns _ named.quotes catalog quotes)
  · exact quotes_ofList (by decide)
  · intro text mem
    simp only [List.mem_cons, List.not_mem_nil, or_false] at mem
    rcases mem with rfl | rfl | rfl
    all_goals exact quotes_ofList (by decide)

theorem schemas_parallel
    (shape : ∀ a ∈ Kind.schemas.arguments, SameShape .schemas a (f.value a) (g.value a)) :
    ∃ S T, schemas f = .ok S ∧ schemas g = .ok T ∧ Parallel q f g (written .schemas f) S T := by
  have schema : Parallel q f g _ (matching? "schema_name" f.schema)
      (matching? "schema_name" g.schema) :=
    .matching? (by decide) (quotes_ofList (by decide)) (shape .schema (by decide))
  have start : BuiltAlike q f g [] .empty .empty := .empty
  have head := start.text (legible_ofList (by decide) (by cases q <;> decide) :
    (Part.trusted "SELECT schema_name FROM information_schema.schemata").Legible q)
  have sorted : ∀ column ∈ ["schema_name"], '\'' ∉ column.toList := by
    intro column mem
    obtain rfl := List.mem_singleton.mp mem
    exact quotes_ofList (by decide)
  exact ((head.whereClause schema).orderBy sorted).build

theorem SameShape.table_present {d e : Datum} (h : SameShape .primaryKeys .table d e) :
    d.isNull = false ∧ e.isNull = false := by
  cases h with
  | absent optional => exact absurd (optional rfl) (by decide)
  | blank search => exact absurd rfl search
  | filled _ _ _ _ => exact ⟨rfl, rfl⟩

theorem compose_parallel {version : Version} (engine : version.IsEngine)
    (named : IsSchemaColumn column) {kind : Kind} (types : SameTypes version f.types g.types)
    (shape : ∀ a ∈ kind.arguments, SameShape kind a (f.value a) (g.value a)) :
    ∃ form S T, (compose version kind column f).2 = .ok (form, S) ∧
      (compose version kind column g).2 = .ok (form, T) ∧ Parallel q f g (written kind f) S T := by
  cases kind with
  | tables =>
    obtain ⟨form, selected⟩ : ∃ form, Strategy.tablesForm.select version = .ok form :=
      Strategy.select_isEngine engine
    have typed : isTyped version = decide (form = .tablesExtended) := by
      rw [isTyped, selected]
    obtain ⟨kinds, left, right, requested⟩ := kindFilter_sameTypes (q := q) types named.quotes f g
    obtain ⟨S, T, builtS, builtT, parallel⟩ := tables_parallel named form shape requested
    rw [typed] at left right
    refine ⟨form, S, T, ?_, ?_, parallel⟩
    · simp only [compose, selected, left, bind, Except.bind, builtS, pure, Except.pure]
    · simp only [compose, selected, right, bind, Except.bind, builtT, pure, Except.pure]
  | columns =>
    obtain ⟨form, selected⟩ : ∃ form, Strategy.columnsForm.select version = .ok form :=
      Strategy.select_isEngine engine
    obtain ⟨S, T, builtS, builtT, parallel⟩ := columnsOf_parallel (q := q) named form shape
    refine ⟨form, S, T, ?_, ?_, parallel⟩
    · simp only [compose, selected, bind, Except.bind, builtS, pure, Except.pure]
    · simp only [compose, selected, bind, Except.bind, builtT, pure, Except.pure]
  | primaryKeys =>
    obtain ⟨present, present'⟩ := (shape .table (by decide)).table_present
    have left : f.table.isNull = false := present
    have right : g.table.isNull = false := present'
    obtain ⟨form, selected⟩ : ∃ form, Strategy.primaryKeysForm.select version = .ok form :=
      Strategy.select_isEngine engine
    obtain ⟨S, T, builtS, builtT, parallel⟩ : ∃ S T, primaryKeys version form column f = .ok S ∧
        primaryKeys version form column g = .ok T ∧
          Parallel q f g (written .primaryKeys f) S T := by
      rcases Strategy.select_sinceThen selected with rfl | rfl
      · exact keysAsArray_parallel named shape
      · exact keysByColumn_parallel engine named shape
    refine ⟨form, S, T, ?_, ?_, parallel⟩
    · simp [compose, selected, left, bind, Except.bind, builtS, pure, Except.pure]
    · simp [compose, selected, right, bind, Except.bind, builtT, pure, Except.pure]
  | schemas =>
    obtain ⟨S, T, builtS, builtT, parallel⟩ := schemas_parallel (q := q) shape
    refine ⟨.schemas, S, T, ?_, ?_, parallel⟩
    · simp only [compose, bind, Except.bind, builtS, pure, Except.pure]
    · simp only [compose, bind, Except.bind, builtT, pure, Except.pure]

/-- A server reads the statements of two lookups of one shape alike: what callers search for
reaches them only as literals, each of which is read as the very pattern.  Lookups with the same
patterns get the same statement, also when their requests for kinds of tables differ in what the
catalog of the version does not tell apart. -/
theorem draft_readAlike {version : Version} (engine : version.IsEngine) (q : Quoting) {kind : Kind}
    {f g : Filters} (types : SameTypes version f.types g.types)
    (shape : ∀ a ∈ kind.arguments, SameShape kind a (f.value a) (g.value a)) :
    ∃ first second, (draft version q kind f).query = .ok first ∧
      (draft version q kind g).query = .ok second ∧
      ReadAlike q (written kind f) f g first.sql second.sql ∧
      ((∀ a ∈ kind.arguments, f.value a = g.value a) → first.sql = second.sql) := by
  obtain ⟨column, selected⟩ : ∃ column, Strategy.schemaColumn.select version = .ok column :=
    Strategy.select_isEngine engine
  have named : IsSchemaColumn column := Strategy.select_sinceThen selected
  obtain ⟨form, S, T, composed, composed', parallel⟩ :=
    compose_parallel (q := q) engine named types shape
  obtain ⟨s, t, rendered, rendered', alike⟩ := parallel.readAlike
  have drafted : ∀ (h : Filters) (F : Fragment) (text : String),
      (compose version kind column h).2 = .ok (form, F) → F.render q = .ok text →
      (draft version q kind h).query = .ok ⟨kind, form, text, version, column⟩ := by
    intro h F text composed rendered
    simp only [draft, selected, composed, bind, Except.bind, rendered, pure, Except.pure]
  refine ⟨_, _, drafted f S s composed rendered, drafted g T t composed' rendered', alike, ?_⟩
  intro same
  have parts := parallel.parts_eq fun a mem => same a (List.mem_of_mem_filter mem)
  have fragments : S = T := by
    cases S
    cases T
    exact congrArg Fragment.mk parts
  subst fragments
  exact Except.ok.inj (rendered.symm.trans rendered')

/-- A lookup for a schema with an apostrophe and a backslash in its name. -/
def quotedName : Filters :=
  { schema := .text "o'b\\", types := .list [.text " view", .text "TABLE"] }

/-- A lookup for a schema whose name tries to end the literal. -/
def breakout : Filters :=
  { schema := .text "\\'; --", types := .tuple [.text "View", .text "table", .text "x"] }

theorem draft_readAlike_breakout :
    ∃ first second, (draft (.ofInts 5 4 0) .escaping .tables quotedName).query = .ok first ∧
      (draft (.ofInts 5 4 0) .escaping .tables breakout).query = .ok second ∧
      ReadAlike .escaping [.schema] quotedName breakout first.sql second.sql := by
  have left : requestedKinds quotedName.types = .ok ([" view", "TABLE"].map .text) := rfl
  have right : requestedKinds breakout.types = .ok (["View", "table", "x"].map .text) := rfl
  have types : SameTypes (.ofInts 5 4 0) quotedName.types breakout.types :=
    .requested left right (by decide +kernel)
  have shape : ∀ a ∈ Kind.tables.arguments,
      SameShape .tables a (quotedName.value a) (breakout.value a) := by
    intro a mem
    rcases List.mem_cons.mp mem with rfl | mem
    · exact .filled (by decide) (by decide) (by simp) (by simp)
    · obtain rfl := List.mem_singleton.mp mem
      exact .absent (by decide)
  have written : written .tables quotedName = [.schema] := by decide
  obtain ⟨first, second, drafted, drafted', alike, -⟩ :=
    draft_readAlike ⟨5, 4, 0, rfl⟩ .escaping types shape
  rw [written] at alike
  exact ⟨first, second, drafted, drafted', alike⟩

end SystemCatalog.Catalog.Query
