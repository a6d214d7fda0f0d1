import SchemaMarkup.Proofs.Sql.FirstLinks

/-! Statements of schemas that repeat declarations. Columns are made of the first declarations
alone, but links between fields are taken from the types of all. So a repetition shows in the
statements just if its type relates a field to another that neither its first declaration nor a
reference relates it to.
-/

namespace SchemaMarkup.Sql

variable {c : Conventions} {s : Schema}

-----------------------------------------------------------------------------------------
-- Tables
-----------------------------------------------------------------------------------------

/-- The column of a field but for its foreign keys does not depend on links. -/
theorem columnOf_eq (lib : Library) (links links' : List KeyLink) (table : String) (f : Field)
    : columnOf lib c s links table f
      = (columnOf lib c s.firstDeclarations links' table f).map
          fun column => { column with keys := keysOf lib links table column.name } := by
  rw [columnOf, columnOf, s.declares_firstDeclarations]
  split
  · rfl
  · cases c.fieldPrimitive f.name f.type <;> rfl

/-- Whether columns are refused does not depend on their foreign keys. -/
theorem tableOf_withKeys (lib : Library) (keys : String → String → List KeyTarget) (name : String)
    (columns : List Column)
    : tableOf lib name (columns.map fun column => { column with keys := keys name column.name })
      = (tableOf lib name columns).map fun t => t.withKeys (keys t.name) := by
  have names : (columns.map fun column => { column with keys := keys name column.name }).map
      Column.name = columns.map Column.name := by
    rw [List.map_map]
    rfl
  rw [tableOf, tableOf, names]
  cases lib.check (columns.map Column.name) <;> rfl

/-- The tables of a schema are those of its first declarations with other foreign keys: those from
the links of all declarations.
-/
theorem tablesOf_eq (lib : Library) (c : Conventions) (s : Schema)
    : tablesOf lib c s
      = (tablesOf lib c s.firstDeclarations).map
          (List.map fun t => t.withKeys (keysOf lib (keyLinks c s) t.name)) := by
  rw [tablesOf, tablesOf, distinctBy_nil_eq_self s.nodup_tableNames_firstDeclarations]
  have tables : s.firstDeclarations.tables = s.distinctTables.map Table.withFirstFields := rfl
  rw [tables, List.mapM_map]
  refine Outcome.mapM_eq_map_mapM fun t _ => ?_
  have fields : distinctBy Field.name [] t.withFirstFields.fields
      = distinctBy Field.name [] t.fields :=
    distinctBy_nil_eq_self t.nodup_fieldNames_withFirstFields
  have columns : (distinctBy Field.name [] t.fields).mapM (columnOf lib c s (keyLinks c s) t.name)
      = ((distinctBy Field.name [] t.fields).mapM
          (columnOf lib c s.firstDeclarations (keyLinks c s.firstDeclarations) t.name)).map
            (List.map fun column =>
              { column with keys := keysOf lib (keyLinks c s) t.name column.name }) :=
    Outcome.mapM_eq_map_mapM fun f _ => columnOf_eq lib _ _ t.name f
  have name : t.withFirstFields.name = t.name := rfl
  rw [Function.comp_apply, fields, columns, name]
  cases (distinctBy Field.name [] t.fields).mapM
      (columnOf lib c s.firstDeclarations (keyLinks c s.firstDeclarations) t.name) with
  | error e => rfl
  | ok columns => exact tableOf_withKeys lib (keysOf lib (keyLinks c s)) t.name columns

section

variable {lib : Library} {tables : List SqlTable}
  (h : tablesOf lib c s.firstDeclarations = .ok tables)

include h

/-- The tables are made of the first declarations, one after the other. -/
theorem forall₂_of_tablesOf_firstDeclarations
    : List.Forall₂ (fun t sql => sql.name = t.name
          ∧ t.fields.mapM
              (columnOf lib c s.firstDeclarations (keyLinks c s.firstDeclarations) t.name)
            = .ok sql.columns)
        s.firstDeclarations.tables tables :=
  (forall₂_of_tablesOf s.nodup_tableNames_firstDeclarations
    (fun _ => s.nodup_fieldNames_of_mem_firstDeclarations) h).imp fun _ _ h => ⟨h.1, h.2.2⟩

theorem names_eq_of_tablesOf
    : tables.map SqlTable.name = s.firstDeclarations.tableNames := by
  rw [Schema.tableNames, eq_comm, ← List.forall₂_eq_eq_eq, List.forall₂_map_left_iff,
    List.forall₂_map_right_iff]
  exact (forall₂_of_tablesOf_firstDeclarations h).imp fun t sql h => h.1.symm

/-- What the first declarations declare has its column. -/
theorem exists_column_of_firstDeclarations {table field : String}
    (declared : s.firstDeclarations.DeclaresField table field)
    : ∃ sql ∈ tables, sql.name = table ∧ field ∈ sql.columns.map Column.name :=
  exists_column_of_declaresField s.nodup_tableNames_firstDeclarations
    (fun _ => s.nodup_fieldNames_of_mem_firstDeclarations) h declared

/-- A column is made of a field of a first declaration, and has the foreign keys of its links. -/
theorem exists_field_of_column {sql : SqlTable} (hs : sql ∈ tables) {column : Column}
    (hc : column ∈ sql.columns)
    : ∃ t ∈ s.firstDeclarations.tables, ∃ f ∈ t.fields, sql.name = t.name
        ∧ column.name = f.name
        ∧ column.keys = keysOf lib (keyLinks c s.firstDeclarations) t.name f.name := by
  obtain ⟨t, ht, named, columns⟩ :=
    Outcome.exists_of_forall₂ (forall₂_of_tablesOf_firstDeclarations h) hs
  obtain ⟨f, hf, made⟩ := Outcome.exists_of_mem_mapM columns hc
  exact ⟨t, ht, f, hf, named, name_and_keys_of_columnOf made⟩

/-- The tables of first declarations have the foreign keys of all declarations already exactly if
their fields have.
-/
theorem withKeys_keysOf_iff
    : (∀ sql ∈ tables, sql.withKeys (keysOf lib (keyLinks c s) sql.name) = sql)
      ↔ ∀ t ∈ s.firstDeclarations.tables, ∀ f ∈ t.fields,
          keysOf lib (keyLinks c s) t.name f.name
            = keysOf lib (keyLinks c s.firstDeclarations) t.name f.name := by
  simp only [SqlTable.withKeys_eq_self_iff]
  constructor
  · intro same t ht f hf
    obtain ⟨sql, hs, named, hx⟩ :=
      exists_column_of_firstDeclarations h ⟨t, ht, rfl, List.mem_map_of_mem hf⟩
    obtain ⟨column, hc, field⟩ := List.mem_map.mp hx
    obtain ⟨t', _, f', _, hn, hx', hk⟩ := exists_field_of_column h hs hc
    rw [← named, ← field, same sql hs column hc, hk, hn, hx']
  · intro same sql hs column hc
    obtain ⟨t, ht, f, hf, hn, hx, hk⟩ := exists_field_of_column h hs hc
    rw [hn, hx, hk, same t ht f hf]

end

-----------------------------------------------------------------------------------------
-- Repetitions that do not show
-----------------------------------------------------------------------------------------

/-- Repeated declarations that add no links do not show in the tables. -/
theorem RepeatsAddNoLinks.tablesOf_firstDeclarations (noLinks : RepeatsAddNoLinks c s)
    (lib : Library)
    : tablesOf lib c s = tablesOf lib c s.firstDeclarations := by
  rw [tablesOf_eq]
  cases h : tablesOf lib c s.firstDeclarations with
  | error e => rfl
  | ok tables =>
      have same := (withKeys_keysOf_iff h).mpr fun t ht f hf => noLinks.keysOf_eq lib ht hf
      exact congrArg Except.ok ((List.map_congr_left same).trans (List.map_id' tables))

/-- Nor do they show in the statements, whatever library writes these. -/
theorem RepeatsAddNoLinks.toSqlBy_firstDeclarations (noLinks : RepeatsAddNoLinks .standard s)
    (lib : Library) (dialect : String)
    : s.toSqlBy lib dialect = s.firstDeclarations.toSqlBy lib dialect := by
  rw [Schema.toSqlBy, Schema.toSqlBy, noLinks.tablesOf_firstDeclarations]

-----------------------------------------------------------------------------------------
-- Repetitions that show
-----------------------------------------------------------------------------------------

section

variable {lib : Library} {tables : List SqlTable}
  (h : tablesOf lib c s.firstDeclarations = .ok tables) (builds : lib.BuildsTables)
  (creates : lib.CreatesTables) (undotted : ∀ t ∈ s.tables, ∀ x ∈ t.fieldNames, '.' ∉ x.toList)

include h builds creates undotted

/-- The tables of first declarations are put in order with the foreign keys of any links that lead
to declared fields, since these have their columns.
-/
theorem exists_arrange_withKeys {links : List KeyLink}
    (targets : ∀ l ∈ links, l.hasTarget s = true)
    : ∃ arranged,
        lib.arrange (tables.map fun t => t.withKeys (keysOf lib links t.name)) = .ok arranged
          ∧ arranged.Perm (tables.map fun t => t.withKeys (keysOf lib links t.name)) := by
  have names : (tables.map fun t => t.withKeys (keysOf lib links t.name)).map SqlTable.name
      = s.firstDeclarations.tableNames := by
    rw [List.map_map, ← names_eq_of_tablesOf h]
    rfl
  refine creates.arranges _ (names ▸ s.nodup_tableNames_firstDeclarations) ?_
  intro t' ht column' hc k hk
  obtain ⟨t, _, rfl⟩ := List.mem_map.mp ht
  obtain ⟨column, _, rfl⟩ := List.mem_map.mp hc
  have undotted : ∀ l ∈ links, '.' ∉ l.targetField.toList :=
    fun l hl => undotted_of_hasTarget undotted (targets l hl)
  have target := targets _ ((mem_keysOf_iff builds undotted).mp hk)
  rw [← KeyLink.hasTarget_firstDeclarations,
    KeyLink.hasTarget_iff s.nodup_tableNames_firstDeclarations] at target
  obtain ⟨sql, hs, named, hx⟩ := exists_column_of_firstDeclarations h target
  refine ⟨_, List.mem_map_of_mem hs, named, ?_⟩
  rw [SqlTable.withKeys, List.map_map]
  exact hx

/-- The statements with the foreign keys of all declarations are those with the foreign keys of the
first ones only if repeated declarations add no links, whatever order they are in.
-/
theorem exists_arrange_of_statements_eq (d : Dialect)
    : ∃ first all, lib.arrange tables = .ok first
        ∧ lib.arrange (tables.map fun t => t.withKeys (keysOf lib (keyLinks c s) t.name)) = .ok all
        ∧ (statements lib d all = statements lib d first → RepeatsAddNoLinks c s) := by
  have self : (tables.map fun t =>
      t.withKeys (keysOf lib (keyLinks c s.firstDeclarations) t.name)) = tables := by
    refine (List.map_congr_left fun t ht => ?_).trans (List.map_id' tables)
    refine SqlTable.withKeys_eq_self_iff.mpr fun column hc => ?_
    obtain ⟨_, _, _, _, hn, hx, hk⟩ := exists_field_of_column h ht hc
    rw [hk, hn, hx]
  obtain ⟨first, hf, permFirst⟩ := exists_arrange_withKeys h builds creates undotted
    fun l (hl : l ∈ keyLinks c s.firstDeclarations) =>
      (l.hasTarget_firstDeclarations s).symm.trans (mem_keyLinks.mp hl).2
  obtain ⟨all, ha, permAll⟩ := exists_arrange_withKeys h builds creates undotted
    fun l (hl : l ∈ keyLinks c s) => (mem_keyLinks.mp hl).2
  rw [self] at hf permFirst
  refine ⟨first, all, hf, ha, fun same => ?_⟩
  rw [repeatsAddNoLinks_iff undotted builds, ← withKeys_keysOf_iff h]
  refine creates.withKeys_eq_self d (fun t ht column hc => ?_) permFirst permAll same
  obtain ⟨t, ht, f, hf, hn, hx, hk⟩ := exists_field_of_column h ht hc
  rw [hn, hx, hk]
  exact keysOf_first (linksFrom_keyLinks_first ht hf) lib

end

/-- Statements in a known dialect are made of the arranged tables. -/
theorem toSqlBy_eq (lib : Library) (d : Dialect) (s : Schema)
    : s.toSqlBy lib d.name
      = (do
          let tables ← tablesOf lib .standard s
          let arranged ← lib.arrange tables
          return statements lib d arranged) := by
  have known : Dialect.ofName d.name = .ok d := by cases d <;> rfl
  simp only [Schema.toSqlBy, bind, Except.bind, pure, Except.pure]
  cases tablesOf lib .standard s with
  | error e => rfl
  | ok tables =>
      dsimp only
      cases lib.arrange tables with
      | error e => rfl
      | ok arranged =>
          cases arranged with
          | nil => rfl
          | cons t arranged => simp only [known]

/-- The statements for a schema are those for its first declarations exactly if these have a field
without a name, so that there are none at all, or repeated declarations add no links. This is so for
every library that builds and creates tables as it is relied on.
-/
theorem toSql_firstDeclarations_iff {lib : Library} (builds : lib.BuildsTables)
    (creates : lib.CreatesTables) (d : Dialect)
    (undotted : ∀ t ∈ s.tables, ∀ x ∈ t.fieldNames, '.' ∉ x.toList)
    : s.toSqlBy lib d.name = s.firstDeclarations.toSqlBy lib d.name
      ↔ (∃ t ∈ s.firstDeclarations.tables, "" ∈ t.fieldNames)
        ∨ RepeatsAddNoLinks .standard s := by
  have possible := exists_tablesOf_iff s.nodup_tableNames_firstDeclarations
    (fun _ => s.nodup_fieldNames_of_mem_firstDeclarations) builds
    Conventions.namesPrimitives_standard
  constructor
  · intro same
    by_contra neither
    push Not at neither
    obtain ⟨tables, h⟩ := possible.mpr neither.1
    obtain ⟨first, all, hf, ha, noLinks⟩ :=
      exists_arrange_of_statements_eq h builds creates undotted d
    rw [toSqlBy_eq, toSqlBy_eq, tablesOf_eq, h] at same
    change (lib.arrange (tables.map fun t =>
        t.withKeys (keysOf lib (keyLinks .standard s) t.name)) >>= _)
      = (lib.arrange tables >>= _) at same
    rw [ha, hf] at same
    exact neither.2 (noLinks (Except.ok.inj same))
  · rintro (⟨t, ht, blank⟩ | noLinks)
    · cases h : tablesOf lib .standard s.firstDeclarations with
      | error e => rw [toSqlBy_eq, toSqlBy_eq, tablesOf_eq, h]; rfl
      | ok tables => exact absurd blank (possible.mp ⟨tables, h⟩ t ht)
    · exact noLinks.toSqlBy_firstDeclarations lib d.name

instance (s : Schema) (table field : String) : Decidable (s.DeclaresField table field) :=
  inferInstanceAs (Decidable (∃ t ∈ s.tables, t.name = table ∧ field ∈ t.fieldNames))

instance (c : Conventions) (s : Schema) : Decidable (RepeatsAddNoLinks c s) :=
  inferInstanceAs (Decidable (∀ l ∈ typeLinks c s,
    s.firstDeclarations.DeclaresField l.sourceTable l.sourceField
    → l ∈ keyLinks c s.firstDeclarations))

/-- A schema that repeats tables and fields. The types of repeated fields name tables, but what they
relate is related by a reference, is related by the field that is declared first, or belongs to
no column.
-/
def market : Schema where
  tables := [
    { name := "sellers"
      fields := [{ name := "_id", type := "unique" }, { name := "id", type := "int" }] },
    { name := "offers"
      fields := [
        { name := "_id", type := "unique" },
        { name := "by", type := "text" },
        { name := "by", type := "sellers" },
        { name := "after", type := "offers" },
        { name := "price", type := "money" }] },
    { name := "offers"
      fields := [{ name := "after", type := "offers" }, { name := "buyer", type := "sellers" }] },
    { name := "sellers", fields := [{ name := "id", type := "date" }] }]
  refs := [⟨"sellers", "_id", .oneToMany, "offers", "by"⟩]

/-- The repetitions in this schema do not show. -/
theorem toSql_firstDeclarations_iff_market
    : Library.standard.BuildsTables ∧ Library.standard.CreatesTables
      ∧ (∀ t ∈ market.tables, ∀ x ∈ t.fieldNames, '.' ∉ x.toList)
      ∧ market.firstDeclarations ≠ market
      ∧ RepeatsAddNoLinks .standard market
      ∧ market.toSql "postgresql" = market.firstDeclarations.toSql "postgresql" :=
  have undotted : ∀ t ∈ market.tables, ∀ x ∈ t.fieldNames, '.' ∉ x.toList := by decide +kernel
  have noLinks : RepeatsAddNoLinks .standard market := by decide +kernel
  have builds := buildsTables_standard
  have creates := createsTables_standard
  ⟨builds, creates, undotted, by decide +kernel, noLinks,
    (toSql_firstDeclarations_iff builds creates .postgresql undotted).mpr (.inr noLinks)⟩

/-- A single table is created by its statement if all its foreign keys lead to itself. -/
theorem toSql_eq_of_singleton (d : Dialect) {t : SqlTable}
    (h : tablesOf .standard .standard s = .ok [t])
    (found : ∀ column ∈ t.columns, ∀ k ∈ column.keys,
      t.name = k.table ∧ k.column ∈ t.columns.map Column.name)
    : s.toSql d.name = .ok (statements .standard d [t]) := by
  obtain ⟨arranged, ha, perm⟩ : ∃ arranged, Library.standard.arrange [t] = .ok arranged
      ∧ arranged.Perm [t] := by
    refine exists_arrange_eq_ok (List.nodup_singleton _) fun t' ht column hc k hk => ?_
    obtain rfl := List.mem_singleton.mp ht
    exact ⟨t', ht, found column hc k hk⟩
  rw [Schema.toSql, toSqlBy_eq, h]
  change (Library.standard.arrange [t] >>= _) = _
  rw [ha, List.perm_singleton.mp perm]
  rfl

/-- A table with a field that is declared twice, the second time with a type that names a table. -/
def categories : Schema where
  tables := [
    { name := "categories"
      fields := [
        { name := "_id", type := "unique" },
        { name := "parent", type := "text" },
        { name := "parent", type := "categories" }] }]

/-- The type of a repeated field shows as a foreign key of the field declared first. -/
theorem toSql_shows_repeated_field
    : (∀ t ∈ categories.tables, '.' ∉ t.name.toList ∧ ∀ x ∈ t.fieldNames, '.' ∉ x.toList)
      ∧ categories.toSql "sqlite"
        = .ok ("CREATE TABLE categories (\n\t_id VARCHAR(36) NOT NULL, \n\tparent VARCHAR(255), "
            ++ "\n\tPRIMARY KEY (_id), "
            ++ "\n\tFOREIGN KEY(parent) REFERENCES categories (_id)\n);\n\n")
      ∧ categories.firstDeclarations.toSql "sqlite"
        = .ok ("CREATE TABLE categories (\n\t_id VARCHAR(36) NOT NULL, \n\tparent VARCHAR(255), "
            ++ "\n\tPRIMARY KEY (_id)\n);\n\n") := by
  let id : Column := ⟨"_id", .unique, true, []⟩
  refine ⟨by decide +kernel, ?_, ?_⟩
  · refine (toSql_eq_of_singleton .sqlite
      (t := ⟨"categories", [id, ⟨"parent", .text, false, [⟨"categories", "_id"⟩]⟩]⟩)
      (by decide +kernel) (by decide +kernel)).trans (congrArg Except.ok ?_)
    decide +kernel
  · refine (toSql_eq_of_singleton .sqlite
      (t := ⟨"categories", [id, ⟨"parent", .text, false, []⟩]⟩)
      (by decide +kernel) (by decide +kernel)).trans (congrArg Except.ok ?_)
    decide +kernel

end SchemaMarkup.Sql
