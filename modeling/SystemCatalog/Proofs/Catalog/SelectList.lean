import SystemCatalog.Catalog.Selection
import SystemCatalog.Proofs.Catalog.Injection
import SystemCatalog.Proofs.Sql.SelectList

/-!
# Columns that catalog queries select

The statement for a lookup begins with the list of the columns that its form selects, under the
names of the form: `compose_lists`.
-/

namespace SystemCatalog.Catalog

open Sql

variable {q : Quoting} {text column : String} {columns : List String} {S : Fragment}

/-! ### How statements begin -/

def Lists (columns : List String) (text : String) : Prop :=
  ∃ rest, text.toList = "SELECT ".toList ++ ((String.intercalate ", " columns).toList ++
    (" FROM ".toList ++ rest))

theorem intercalate_append {separator : String} {texts : List String} (inhabited : texts ≠ [])
    (more : List String) :
    ∃ rest, separator.intercalate (texts ++ more) = separator.intercalate texts ++ rest := by
  induction texts with
  | nil => exact absurd rfl inhabited
  | cons s texts ih =>
    cases texts with
    | nil =>
      cases more with
      | nil => exact ⟨"", by simp⟩
      | cons t more =>
        refine ⟨separator ++ separator.intercalate (t :: more), ?_⟩
        rw [List.cons_append, List.nil_append, String.intercalate_cons_cons,
          String.intercalate_singleton, String.append_assoc]
    | cons t texts =>
      obtain ⟨rest, eq⟩ := ih (List.cons_ne_nil _ _)
      refine ⟨rest, ?_⟩
      rw [List.cons_append] at eq
      rw [List.cons_append, List.cons_append, String.intercalate_cons_cons, eq,
        String.intercalate_cons_cons]
      simp only [String.append_assoc]

theorem mapM_render_trusted (texts : List String) :
    (texts.map Fragment.trusted).mapM (·.render q) = .ok texts := by
  induction texts with
  | nil => rfl
  | cons s texts ih =>
    rw [List.map_cons, List.mapM_cons, ih, Fragment.render_trusted]
    rfl

theorem begins_of_clauses {b : Builder} {texts : List String} {more : List Fragment}
    (inhabited : texts ≠ [])
    (clauses : b.clauses = (texts.map Fragment.trusted ++ more).map .fragment)
    (built : b.build = .ok S) (rendered : S.render q = .ok text) :
    ∃ rest, text = String.intercalate " " texts ++ rest := by
  rw [Builder.build_of_clauses clauses] at built
  cases built
  have first : Fragment.filled (texts.map .trusted) = texts.map .trusted := by
    apply List.filter_eq_self.mpr
    intro F mem
    obtain ⟨s, -, rfl⟩ := List.mem_map.mp mem
    rfl
  have members : Fragment.filled (texts.map .trusted ++ more) =
      texts.map .trusted ++ Fragment.filled more := by
    rw [Fragment.filled, List.filter_append]
    exact congrArg (· ++ Fragment.filled more) first
  rw [(render_join_trusted " " _).2, members, List.mapM_append, mapM_render_trusted,
    map_eq_pure_bind] at rendered
  obtain ⟨shown, rendered, whole⟩ := bind_eq_ok rendered
  obtain ⟨_, same, rendered⟩ := bind_eq_ok rendered
  obtain ⟨others, -, rendered⟩ := bind_eq_ok rendered
  cases same
  cases rendered
  cases whole
  exact intercalate_append inhabited others

theorem clauses_ending (b : Builder) (condition : Fragment) (order : List String) :
    ∃ more : List Fragment, ((b.whereClause (.fragment condition)).orderBy order).clauses =
      b.clauses ++ more.map .fragment := by
  rw [Builder.clauses_orderBy, Builder.clauses_whereClause_of_clause? rfl, List.append_assoc,
    ← List.map_append]
  exact ⟨_, rfl⟩

namespace Query

theorem statement_lists {source : String} {condition : Fragment} {order : List String}
    (built : statement columns source condition order = .ok S) (rendered : S.render q = .ok text) :
    Lists columns text := by
  obtain ⟨more, clauses⟩ := clauses_ending
    ((Builder.empty.add (.text (select columns))).add (.text ("FROM " ++ source))) condition order
  have inhabited : [select columns, "FROM " ++ source] ≠ [] := List.cons_ne_nil _ _
  obtain ⟨rest, rfl⟩ := begins_of_clauses inhabited clauses built rendered
  refine ⟨source.toList ++ rest.toList, ?_⟩
  have blank : " FROM ".toList = " ".toList ++ "FROM ".toList := rfl
  rw [blank, select, String.intercalate_cons_cons, String.intercalate_singleton]
  simp only [String.toList_append, List.append_assoc]

theorem schemas_lists {f : Filters} (built : schemas f = .ok S) (rendered : S.render q = .ok text) :
    Lists ["schema_name"] text := by
  obtain ⟨more, clauses⟩ := clauses_ending
    (Builder.empty.add (.text "SELECT schema_name FROM information_schema.schemata"))
    (matching? "schema_name" f.schema) ["schema_name"]
  have inhabited : ["SELECT schema_name FROM information_schema.schemata"] ≠ [] :=
    List.cons_ne_nil _ _
  obtain ⟨rest, rfl⟩ := begins_of_clauses inhabited clauses built rendered
  refine ⟨"information_schema.schemata".toList ++ rest.toList, ?_⟩
  rw [String.intercalate_singleton, String.toList_append]
  rfl

/-! ### Items -/

def formNames (column : String) : Form → List String
  | .tablesLegacy => tableColumns .tablesLegacy column
  | .tablesExtended => tableColumns .tablesExtended column
  | .columnsLegacy => columnColumns .columnsLegacy column
  | .columnsExtended => columnColumns .columnsExtended column
  | .keysAsArray =>
    ["TABLE_CAT", "TABLE_SCHEM", "TABLE_NAME", "COLUMN_NAMES", "KEY_SEQ", "PK_NAME"]
  | .keysByColumn =>
    ["TABLE_CAT", "TABLE_SCHEM", "TABLE_NAME", "COLUMN_NAME", "KEY_SEQ", "PK_NAME"]
  | .schemas => ["schema_name"]

theorem items_tableColumns (named : IsSchemaColumn column) (form : Form) :
    List.Forall₂ (Item q) (tableColumns form column) (tableColumns form column) := by
  apply items_names
  rcases named with rfl | rfl <;> cases form <;> decide

theorem items_columnColumns (named : IsSchemaColumn column) (form : Form) :
    List.Forall₂ (Item q) (columnColumns form column) (columnColumns form column) := by
  apply items_names
  rcases named with rfl | rfl <;> cases form <;> decide

theorem items_keysAsArray (named : IsSchemaColumn column) (catalogField schemaField : String) :
    List.Forall₂ (Item q) (aliased (keyColumns .keysAsArray column catalogField schemaField))
      (formNames column .keysAsArray) := by
  have plain : isName column = true := by rcases named with rfl | rfl <;> decide
  have item {expression label : String} (value : isName expression = true)
      (called : isName label = true) : Item q (expression ++ " AS " ++ label) label :=
    item_aliased (item_name value) (item_name called)
  exact .cons (item (by decide) (by decide)) (.cons (item plain (by decide))
    (.cons (item (by decide) (by decide)) (.cons (item (by decide) (by decide))
      (.cons (item (by decide) (by decide)) (.cons (item (by decide) (by decide)) .nil)))))

theorem items_keysByColumn {catalogField schemaField : String}
    (catalog : ∃ name, Item q catalogField name) (schema : ∃ name, Item q schemaField name) :
    List.Forall₂ (Item q) (aliased (keyColumns .keysByColumn column catalogField schemaField))
      (formNames column .keysByColumn) := by
  obtain ⟨catalogName, catalog⟩ := catalog
  obtain ⟨schemaName, schema⟩ := schema
  have label (n : String) (plain : isName n = true) : Item q ("\"" ++ n ++ "\"") n :=
    item_quoted plain
  have field (n : String) (plain : isName n = true) : Item q ("kcu." ++ n) n := item_qualified plain
  exact .cons (item_aliased catalog (label "TABLE_CAT" (by decide)))
    (.cons (item_aliased schema (label "TABLE_SCHEM" (by decide)))
    (.cons (item_aliased (field "table_name" (by decide)) (label "TABLE_NAME" (by decide)))
    (.cons (item_aliased (field "column_name" (by decide)) (label "COLUMN_NAME" (by decide)))
    (.cons (item_aliased (field "ordinal_position" (by decide)) (label "KEY_SEQ" (by decide)))
    (.cons (item_aliased (field "constraint_name" (by decide)) (label "PK_NAME" (by decide)))
      .nil)))))

/-! ### Forms -/

variable {version : Version} {kind : Kind} {form : Form} {f : Filters}

theorem primaryKeys_lists (named : IsSchemaColumn column)
    (known : form = .keysAsArray ∨ form = .keysByColumn)
    (built : primaryKeys version form column f = .ok S) (rendered : S.render q = .ok text) :
    ∃ items, Lists items text ∧ List.Forall₂ (Item q) items (formNames column form) := by
  rcases known with rfl | rfl
  · exact ⟨_, statement_lists built rendered, items_keysAsArray named "" ""⟩
  · obtain ⟨schemaField, schema, built⟩ := bind_eq_ok built
    obtain ⟨catalogField, catalog, built⟩ := bind_eq_ok built
    refine ⟨_, statement_lists built rendered, items_keysByColumn ?_ ?_⟩
    · rcases Strategy.select_sinceThen catalog with rfl | rfl
      · exact ⟨"NULL", item_name (by decide)⟩
      · have field : Item q ("kcu." ++ "table_catalog") "table_catalog" :=
          item_qualified (by decide)
        exact ⟨_, field⟩
    · rcases Strategy.select_sinceThen schema with rfl | rfl
      · exact ⟨_, item_qualified (by decide)⟩
      · exact ⟨_, item_qualified (by decide)⟩

/-- The statement for a lookup begins with a list of columns that have the names of its form. -/
theorem compose_lists (named : IsSchemaColumn column)
    (composed : (compose version kind column f).2 = .ok (form, S))
    (rendered : S.render q = .ok text) :
    form.kind = kind ∧
      ∃ items, Lists items text ∧ List.Forall₂ (Item q) items (formNames column form) := by
  cases kind with
  | tables =>
    simp only [compose] at composed
    split at composed
    · cases composed
    · next chosen selected =>
      obtain ⟨kinds, -, composed⟩ := bind_eq_ok composed
      obtain ⟨fragment, built, composed⟩ := bind_eq_ok composed
      cases composed
      have items := items_tableColumns (q := q) named form
      rcases Strategy.select_sinceThen selected with rfl | rfl
      · exact ⟨rfl, _, statement_lists built rendered, items⟩
      · exact ⟨rfl, _, statement_lists built rendered, items⟩
  | columns =>
    obtain ⟨chosen, selected, composed⟩ := bind_eq_ok composed
    obtain ⟨fragment, built, composed⟩ := bind_eq_ok composed
    cases composed
    have items := items_columnColumns (q := q) named form
    rcases Strategy.select_sinceThen selected with rfl | rfl
    · exact ⟨rfl, _, statement_lists built rendered, items⟩
    · exact ⟨rfl, _, statement_lists built rendered, items⟩
  | primaryKeys =>
    simp only [compose] at composed
    split at composed
    · cases composed
    · obtain ⟨chosen, selected, composed⟩ := bind_eq_ok composed
      obtain ⟨fragment, built, composed⟩ := bind_eq_ok composed
      cases composed
      have known := Strategy.select_sinceThen selected
      refine ⟨?_, primaryKeys_lists named known built rendered⟩
      rcases known with rfl | rfl <;> rfl
  | schemas =>
    obtain ⟨fragment, built, composed⟩ := bind_eq_ok composed
    cases composed
    refine ⟨rfl, _, schemas_lists built rendered, items_names ?_⟩
    decide

end Query

end SystemCatalog.Catalog
