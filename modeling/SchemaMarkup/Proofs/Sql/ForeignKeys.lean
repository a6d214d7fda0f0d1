import SchemaMarkup.Proofs.Additions.Difference
import SchemaMarkup.Proofs.Outcome
import SchemaMarkup.Proofs.Relation.Inference
import SchemaMarkup.Proofs.Sql.StandardLibrary

/-! Foreign keys of SQL tables. They are the relations that the schema states between its fields:
by references of any direction, and by field types that name a table, which stand for the key
field of that table.
-/

namespace SchemaMarkup

-----------------------------------------------------------------------------------------
-- The relations that a schema states
-----------------------------------------------------------------------------------------

namespace Schema

/-- Whether a table of the schema declares a field. -/
def DeclaresField (s : Schema) (table field : String) : Prop :=
  ∃ t ∈ s.tables, t.name = table ∧ field ∈ t.fieldNames

/-- Whether a schema relates a field of one of its tables to a field of another table, by a
reference or by its type.
-/
inductive Relates (c : Conventions) (s : Schema) (t : Table) (f : Field) (table field : String)
    : Prop
  | manyToOne (stated : ⟨t.name, f.name, .manyToOne, table, field⟩ ∈ s.refs)
  | oneToOne (stated : ⟨t.name, f.name, .oneToOne, table, field⟩ ∈ s.refs)
  | oneToMany (stated : ⟨table, field, .oneToMany, t.name, f.name⟩ ∈ s.refs)
  | fieldType {target : Table} {before after : List Field} {key : Field}
    (declared : target ∈ s.tables) (named : target.name = table) (typed : f.type = table)
    (fields : target.fields = before ++ key :: after) (isKey : key.name ∈ c.keySpellings)
    (first : ∀ g ∈ before, g.name ∉ c.keySpellings) (keyNamed : key.name = field)

end Schema

namespace Sql

variable {lib : Library} {c : Conventions} {s : Schema} {t : Table} {f : Field}

/-- The key field of a table is the first one with the spelling of a key. -/
theorem keyField?_eq_some_iff {key : Field}
    : c.keyField? t = some key
      ↔ key.name ∈ c.keySpellings
        ∧ ∃ before after, t.fields = before ++ key :: after
            ∧ ∀ g ∈ before, g.name ∉ c.keySpellings := by
  rw [Conventions.keyField?, List.find?_eq_some_iff_append]
  simp [Conventions.isKey]

-----------------------------------------------------------------------------------------
-- Links between fields
-----------------------------------------------------------------------------------------

/-- A link has a target if that is a declared field. -/
theorem KeyLink.hasTarget_iff (distinct : s.tableNames.Nodup) {l : KeyLink}
    : l.hasTarget s = true ↔ s.DeclaresField l.targetTable l.targetField := by
  rw [hasTarget, Option.any_eq_true]
  constructor
  · intro h
    obtain ⟨t, ht, hf⟩ := h
    obtain ⟨hm, hn⟩ := Schema.mem_of_table?_eq_some ht
    exact ⟨t, hm, hn, Table.declares_iff.mp hf⟩
  · intro h
    obtain ⟨t, hm, hn, hf⟩ := h
    exact ⟨t, hn ▸ Schema.table?_of_mem distinct hm, Table.declares_iff.mpr hf⟩

/-- The link that the type of a field makes, if there is one, leads to the key of a table. -/
theorem KeyLink.ofType?_eq_some_iff {l : KeyLink}
    : ofType? c s t f = some l
      ↔ ∃ target key, s.table? f.type = some target ∧ c.keyField? target = some key
          ∧ l = ⟨t.name, f.name, target.name, key.name⟩ := by
  simp only [ofType?, Option.bind_eq_bind, Option.bind_eq_some_iff, Option.pure_def,
    Option.some.injEq]
  constructor
  · intro h
    obtain ⟨target, ht, key, hk, rfl⟩ := h
    exact ⟨target, key, ht, hk, rfl⟩
  · intro h
    obtain ⟨target, key, ht, hk, rfl⟩ := h
    exact ⟨target, ht, key, hk, rfl⟩

/-- A reference makes the link from a field exactly if it states the relation in one of three
ways, by cases on its cardinality.
-/
theorem KeyLink.exists_ofRef_iff {table field table' field' : String}
    : (∃ ref ∈ s.refs, ofRef ref = ⟨table, field, table', field'⟩)
      ↔ ⟨table, field, .manyToOne, table', field'⟩ ∈ s.refs
        ∨ ⟨table, field, .oneToOne, table', field'⟩ ∈ s.refs
        ∨ ⟨table', field', .oneToMany, table, field⟩ ∈ s.refs := by
  constructor
  · intro h
    obtain ⟨⟨sourceTable, sourceField, cardinality, targetTable, targetField⟩, hr, he⟩ := h
    cases cardinality <;> cases he
    · exact .inl hr
    · exact .inr (.inr hr)
    · exact .inr (.inl hr)
  · intro h
    rcases h with h | h | h <;> exact ⟨_, h, rfl⟩

/-- The links from a field that lead to a declared field are the relations that the schema states
of it. Among distinct tables with distinct fields, no other field has the same links.
-/
theorem mem_keyLinks_iff (tablesDistinct : s.tableNames.Nodup)
    (fieldsDistinct : ∀ t ∈ s.tables, t.fieldNames.Nodup) (ht : t ∈ s.tables)
    (hf : f ∈ t.fields) {table field : String}
    : ⟨t.name, f.name, table, field⟩ ∈ keyLinks c s
      ↔ s.DeclaresField table field ∧ s.Relates c t f table field := by
  rw [keyLinks, List.mem_filter, KeyLink.hasTarget_iff tablesDistinct, and_comm, List.mem_append,
    List.mem_map, KeyLink.exists_ofRef_iff]
  refine and_congr_right fun _ => ?_
  constructor
  · intro h
    rcases h with (h | h | h) | h
    · exact .manyToOne h
    · exact .oneToOne h
    · exact .oneToMany h
    · obtain ⟨t', ht', h⟩ := List.mem_flatMap.mp h
      obtain ⟨f', hf', h⟩ := List.mem_filterMap.mp h
      obtain ⟨target, key, hd, hk, he⟩ := KeyLink.ofType?_eq_some_iff.mp h
      obtain ⟨htable, hfield, rfl, rfl⟩ := KeyLink.mk.inj he
      obtain rfl := List.inj_on_of_nodup_map tablesDistinct ht ht' htable
      obtain rfl := List.inj_on_of_nodup_map (fieldsDistinct t ht) hf hf' hfield
      obtain ⟨declared, typed⟩ := Schema.mem_of_table?_eq_some hd
      obtain ⟨isKey, before, after, fields, first⟩ := keyField?_eq_some_iff.mp hk
      exact .fieldType declared rfl typed.symm fields isKey first rfl
  · intro h
    cases h with
    | manyToOne stated => exact .inl (.inl stated)
    | oneToOne stated => exact .inl (.inr (.inl stated))
    | oneToMany stated => exact .inl (.inr (.inr stated))
    | @fieldType target before after key declared named typed fields isKey first keyNamed =>
        refine .inr (List.mem_flatMap.mpr ⟨t, ht, List.mem_filterMap.mpr ⟨f, hf, ?_⟩⟩)
        refine KeyLink.ofType?_eq_some_iff.mpr ⟨target, key, ?_, ?_, by rw [named, keyNamed]⟩
        · rw [typed, ← named]
          exact Schema.table?_of_mem tablesDistinct declared
        · exact keyField?_eq_some_iff.mpr ⟨isKey, before, after, fields, first⟩

/-- The links of a schema lead to declared fields. -/
theorem declaresField_of_mem_keyLinks (distinct : s.tableNames.Nodup) {l : KeyLink}
    (h : l ∈ keyLinks c s)
    : s.DeclaresField l.targetTable l.targetField :=
  (KeyLink.hasTarget_iff distinct).mp (List.mem_filter.mp h).2

-----------------------------------------------------------------------------------------
-- Links written as keys
-----------------------------------------------------------------------------------------

section

variable {links : List KeyLink} {table field : String} (builds : lib.BuildsTables)
  (undotted : ∀ l ∈ links, '.' ∉ l.targetField.toList)

include builds

/-- A written target is read as what it was written for if the name of its field has no dot. -/
theorem Library.BuildsTables.target_targetText {l : KeyLink} (undotted : '.' ∉ l.targetField.toList)
    : lib.target l.targetText = ⟨l.targetTable, l.targetField⟩ :=
  builds.reads_target l.targetTable l.targetField undotted

include undotted

/-- The foreign keys of a field are the targets of its links. -/
theorem mem_keysOf_iff {k : KeyTarget}
    : k ∈ keysOf lib links table field ↔ ⟨table, field, k.table, k.column⟩ ∈ links := by
  simp only [keysOf, List.mem_map, List.mem_eraseDups, List.mem_filter, Bool.and_eq_true,
    decide_eq_true_eq]
  constructor
  · intro h
    obtain ⟨_, ⟨l, ⟨hl, rfl, rfl⟩, rfl⟩, rfl⟩ := h
    rwa [builds.target_targetText (undotted l hl)]
  · intro h
    exact ⟨_, ⟨_, ⟨h, rfl, rfl⟩, rfl⟩, builds.target_targetText (undotted _ h)⟩

/-- No field has a foreign key twice: targets that are written differently are different. -/
theorem nodup_keysOf
    : (keysOf lib links table field).Nodup := by
  have inj {text text' : String}
      (h : text ∈ (links.filter fun l => l.sourceTable = table && l.sourceField = field).map
        KeyLink.targetText)
      (h' : text' ∈ (links.filter fun l => l.sourceTable = table && l.sourceField = field).map
        KeyLink.targetText)
      (he : lib.target text = lib.target text')
      : text = text' := by
    obtain ⟨l, hl, rfl⟩ := List.mem_map.mp h
    obtain ⟨l', hl', rfl⟩ := List.mem_map.mp h'
    rw [builds.target_targetText (undotted l (List.mem_filter.mp hl).1),
      builds.target_targetText (undotted l' (List.mem_filter.mp hl').1)] at he
    obtain ⟨htable, hfield⟩ := KeyTarget.mk.inj he
    rw [KeyLink.targetText, KeyLink.targetText, htable, hfield]
  refine (nodup_eraseDups _).map_on fun text h text' h' he => ?_
  exact inj (List.mem_eraseDups.mp h) (List.mem_eraseDups.mp h') he

end

-----------------------------------------------------------------------------------------
-- Columns and tables
-----------------------------------------------------------------------------------------

/-- The column of a field has its name and its foreign keys. -/
theorem name_and_keys_of_columnOf {links : List KeyLink} {table : String} {column : Column}
    (h : columnOf lib c s links table f = .ok column)
    : column.name = f.name ∧ column.keys = keysOf lib links table f.name := by
  rw [columnOf] at h
  split at h
  · cases h
    exact ⟨rfl, rfl⟩
  · obtain ⟨type, _, h⟩ := Outcome.bind_eq_ok.mp h
    cases h
    exact ⟨rfl, rfl⟩

/-- Every field has a column, if the families of types are named after primitive types. -/
theorem exists_columnOf (lib : Library) (named : c.NamesPrimitives) (links : List KeyLink)
    (table : String) (f : Field)
    : ∃ column, columnOf lib c s links table f = .ok column := by
  rw [columnOf]
  split
  · exact ⟨_, rfl⟩
  · obtain ⟨type, ht⟩ := named.fieldPrimitive_ok f.name f.type
    exact ⟨_, Outcome.bind_eq_ok.mpr ⟨type, ht, rfl⟩⟩

/-- A table is made of its columns unless their names are refused. -/
theorem tableOf_eq_ok_iff {name : String} {columns : List Column} {sql : SqlTable}
    : tableOf lib name columns = .ok sql
      ↔ lib.check (columns.map Column.name) = .ok () ∧ sql = ⟨name, columns⟩ := by
  rw [tableOf, Outcome.bind_eq_ok]
  constructor
  · intro h
    obtain ⟨_, accepted, made⟩ := h
    exact ⟨accepted, (Except.ok.inj made).symm⟩
  · intro h
    obtain ⟨accepted, rfl⟩ := h
    exact ⟨(), accepted, rfl⟩

/-- A table of distinct fields is made of their columns, unless their names are refused. -/
theorem mapM_tableOf_eq_ok_iff {links : List KeyLink} {sql : SqlTable}
    (distinct : t.fieldNames.Nodup)
    : (do
        let columns ← (distinctBy Field.name [] t.fields).mapM (columnOf lib c s links t.name)
        tableOf lib t.name columns) = .ok sql
      ↔ sql.name = t.name ∧ lib.check t.fieldNames = .ok ()
        ∧ t.fields.mapM (columnOf lib c s links t.name) = .ok sql.columns := by
  rw [distinctBy_nil_eq_self distinct, Outcome.bind_eq_ok]
  have names {columns : List Column}
      (h : t.fields.mapM (columnOf lib c s links t.name) = .ok columns)
      : columns.map Column.name = t.fieldNames :=
    Outcome.map_eq_of_mapM_eq_ok (fun _ _ hc => (name_and_keys_of_columnOf hc).1) h
  simp only [tableOf_eq_ok_iff]
  constructor
  · intro h
    obtain ⟨columns, hc, accepted, rfl⟩ := h
    exact ⟨rfl, names hc ▸ accepted, hc⟩
  · intro h
    obtain ⟨hn, accepted, hc⟩ := h
    exact ⟨sql.columns, hc, names hc ▸ accepted, by rw [← hn]⟩

/-- Whether a column has the relations that a schema states of a field as foreign keys, each
once.
-/
structure Column.States (s : Schema) (t : Table) (f : Field) (column : Column) : Prop where
  name_eq : column.name = f.name
  mem_keys_iff
    : ∀ k, k ∈ column.keys
        ↔ s.DeclaresField k.table k.column ∧ s.Relates .standard t f k.table k.column
  nodup_keys : column.keys.Nodup

/-- Whether SQL tables have the tables of a schema with their fields, in order, and its relations
as foreign keys, which all lead to columns of these tables.
-/
structure Mirrors (s : Schema) (tables : List SqlTable) : Prop where
  columns
    : List.Forall₂ (fun t sql => sql.name = t.name
          ∧ List.Forall₂ (Column.States s t) t.fields sql.columns) s.tables tables
  targets
    : ∀ sql ∈ tables, ∀ column ∈ sql.columns, ∀ k ∈ column.keys,
        ∃ target ∈ tables, target.name = k.table ∧ k.column ∈ target.columns.map Column.name

section

variable (tablesDistinct : s.tableNames.Nodup)
  (fieldsDistinct : ∀ t ∈ s.tables, t.fieldNames.Nodup)

include tablesDistinct fieldsDistinct

/-- The SQL tables of a schema without repetitions are made of its tables one by one. -/
theorem forall₂_of_tablesOf {tables : List SqlTable} (h : tablesOf lib c s = .ok tables)
    : List.Forall₂ (fun t sql => sql.name = t.name ∧ lib.check t.fieldNames = .ok ()
          ∧ t.fields.mapM (columnOf lib c s (keyLinks c s) t.name) = .ok sql.columns)
        s.tables tables := by
  rw [tablesOf, distinctBy_nil_eq_self tablesDistinct, Outcome.mapM_eq_ok] at h
  refine ((List.forall₂_and_left _ _).mpr ⟨fieldsDistinct, h⟩).imp ?_
  exact fun t sql h => (mapM_tableOf_eq_ok_iff h.1).mp h.2

/-- Every declared field has its column in the table of its name. -/
theorem exists_column_of_declaresField {tables : List SqlTable} (h : tablesOf lib c s = .ok tables)
    {table field : String} (declared : s.DeclaresField table field)
    : ∃ sql ∈ tables, sql.name = table ∧ field ∈ sql.columns.map Column.name := by
  have names : s.tables.map (fun t => (t.name, t.fieldNames))
      = tables.map fun sql => (sql.name, sql.columns.map Column.name) := by
    rw [← List.forall₂_eq_eq_eq, List.forall₂_map_left_iff, List.forall₂_map_right_iff]
    refine (forall₂_of_tablesOf tablesDistinct fieldsDistinct h).imp fun t sql h => ?_
    obtain ⟨hn, _, hc⟩ := h
    rw [hn, Outcome.map_eq_of_mapM_eq_ok (fun _ _ hc => (name_and_keys_of_columnOf hc).1) hc]
    rfl
  obtain ⟨t, ht, rfl, hf⟩ := declared
  have hm : (t.name, t.fieldNames)
      ∈ tables.map fun sql => (sql.name, sql.columns.map Column.name) :=
    names ▸ List.mem_map_of_mem (f := fun t : Table => (t.name, t.fieldNames)) ht
  obtain ⟨sql, hs, he⟩ := List.mem_map.mp hm
  obtain ⟨hn, hc⟩ := Prod.mk.inj he
  exact ⟨sql, hs, hn, hc ▸ hf⟩

variable (builds : lib.BuildsTables)

include builds

/-- The SQL tables of a schema can be made exactly if all fields have a name. -/
theorem exists_tablesOf_iff (named : c.NamesPrimitives)
    : (∃ tables, tablesOf lib c s = .ok tables) ↔ ∀ t ∈ s.tables, "" ∉ t.fieldNames := by
  have accepted : (∀ t ∈ s.tables, lib.check t.fieldNames = .ok ())
      ↔ ∀ t ∈ s.tables, "" ∉ t.fieldNames :=
    forall₂_congr fun t ht => builds.accepts_iff t.fieldNames (fieldsDistinct t ht)
  rw [← accepted]
  constructor
  · intro h
    obtain ⟨tables, h⟩ := h
    have hall := forall₂_of_tablesOf tablesDistinct fieldsDistinct h
    exact ((List.forall₂_and_left s.tables tables).mp (hall.imp fun _ _ h => ⟨h.2.1, h⟩)).1
  · intro h
    rw [tablesOf, distinctBy_nil_eq_self tablesDistinct]
    refine Outcome.exists_mapM_eq_ok fun t ht => ?_
    obtain ⟨columns, hc⟩ : ∃ columns,
        t.fields.mapM (columnOf lib c s (keyLinks c s) t.name) = .ok columns :=
      Outcome.exists_mapM_eq_ok fun f _ => exists_columnOf lib named _ _ f
    exact ⟨⟨t.name, columns⟩,
      (mapM_tableOf_eq_ok_iff (fieldsDistinct t ht)).mpr ⟨rfl, h t ht, hc⟩⟩

variable (undotted : ∀ t ∈ s.tables, ∀ x ∈ t.fieldNames, '.' ∉ x.toList)

include undotted

/-- The column of a field has the relations of the field as foreign keys. -/
theorem states_of_columnOf (ht : t ∈ s.tables) (hf : f ∈ t.fields) {column : Column}
    (h : columnOf lib .standard s (keyLinks .standard s) t.name f = .ok column)
    : column.States s t f := by
  have undotted : ∀ l ∈ keyLinks .standard s, '.' ∉ l.targetField.toList := by
    intro l hl
    obtain ⟨t, ht, _, hf⟩ := declaresField_of_mem_keyLinks tablesDistinct hl
    exact undotted t ht _ hf
  obtain ⟨hn, hk⟩ := name_and_keys_of_columnOf h
  refine ⟨hn, fun k => ?_, ?_⟩
  · rw [hk, mem_keysOf_iff builds undotted,
      mem_keyLinks_iff tablesDistinct fieldsDistinct ht hf]
  · rw [hk]
    exact nodup_keysOf builds undotted

/-- The SQL tables of a schema without repetitions and without dots in field names can be made
exactly if all fields have a name, by any library that builds tables as it is relied on. They are
then the tables of the schema with their fields, in order; each column has as foreign keys the
relations that the schema states of its field, each once, and each key leads to a column of one of
the tables.
-/
theorem foreign_keys_state_relations
    : ((∃ tables, tablesOf lib .standard s = .ok tables) ↔ ∀ t ∈ s.tables, "" ∉ t.fieldNames)
      ∧ ∀ tables, tablesOf lib .standard s = .ok tables → Mirrors s tables := by
  refine ⟨exists_tablesOf_iff tablesDistinct fieldsDistinct builds
    Conventions.namesPrimitives_standard, fun tables h => ?_⟩
  have columns : List.Forall₂ (fun t sql => sql.name = t.name
      ∧ List.Forall₂ (Column.States s t) t.fields sql.columns) s.tables tables := by
    have made := forall₂_of_tablesOf tablesDistinct fieldsDistinct h
    refine ((List.forall₂_and_left _ _).mpr ⟨fun _ ht => ht, made⟩).imp fun t sql h => ?_
    obtain ⟨ht, hn, _, hc⟩ := h
    refine ⟨hn, ?_⟩
    refine ((List.forall₂_and_left _ _).mpr ⟨fun _ hf => hf, Outcome.mapM_eq_ok.mp hc⟩).imp ?_
    exact fun f column h =>
      states_of_columnOf tablesDistinct fieldsDistinct builds undotted ht h.1 h.2
  refine ⟨columns, fun sql hs column hc k hk => ?_⟩
  obtain ⟨t, _, _, hcolumns⟩ := Outcome.exists_of_forall₂ columns hs
  obtain ⟨f, _, states⟩ := Outcome.exists_of_forall₂ hcolumns hc
  have declared := ((states.mem_keys_iff k).mp hk).1
  exact exists_column_of_declaresField tablesDistinct fieldsDistinct h declared

end

/-- A schema that states relations in all ways, some of them twice and one to a field that is not
declared.
-/
def library : Schema where
  tables := [
    { name := "authors", fields := [{ name := "id", type := "unique" }] },
    { name := "books"
      fields := [
        { name := "_id", type := "unique" },
        { name := "author", type := "authors" },
        { name := "sequel", type := "books" },
        { name := "cover", type := "text" }] },
    { name := "covers"
      fields := [{ name := "of", type := "books" }, { name := "image", type := "text" }] }]
  refs := [
    ⟨"books", "author", .manyToOne, "authors", "id"⟩,
    ⟨"covers", "image", .oneToMany, "books", "cover"⟩,
    ⟨"books", "_id", .oneToOne, "covers", "of"⟩,
    ⟨"books", "cover", .manyToOne, "covers", "image"⟩,
    ⟨"covers", "image", .manyToOne, "books", "shelf"⟩]

/-- The foreign keys of such a schema, beside those that its columns have in fact. -/
theorem foreign_keys_state_relations_library
    : Library.standard.BuildsTables
      ∧ library.tableNames.Nodup ∧ (∀ t ∈ library.tables, t.fieldNames.Nodup)
      ∧ (∀ t ∈ library.tables, ∀ x ∈ t.fieldNames, '.' ∉ x.toList)
      ∧ (tablesOf .standard .standard library).map
          (·.map fun t => (t.name, t.columns.map fun column => (column.name, column.keys)))
        = .ok [
          ("authors", [("id", [])]),
          ("books", [
            ("_id", [⟨"covers", "of"⟩]),
            ("author", [⟨"authors", "id"⟩]),
            ("sequel", [⟨"books", "_id"⟩]),
            ("cover", [⟨"covers", "image"⟩])]),
          ("covers", [("of", [⟨"books", "_id"⟩]), ("image", [])])]
      ∧ ((∃ tables, tablesOf .standard .standard library = .ok tables)
          ↔ ∀ t ∈ library.tables, "" ∉ t.fieldNames)
      ∧ ∀ tables, tablesOf .standard .standard library = .ok tables → Mirrors library tables :=
  have tablesDistinct : library.tableNames.Nodup := by decide +kernel
  have fieldsDistinct : ∀ t ∈ library.tables, t.fieldNames.Nodup := by decide +kernel
  have undotted : ∀ t ∈ library.tables, ∀ x ∈ t.fieldNames, '.' ∉ x.toList := by decide +kernel
  ⟨buildsTables_standard, tablesDistinct, fieldsDistinct, undotted, by decide +kernel,
    foreign_keys_state_relations tablesDistinct fieldsDistinct buildsTables_standard undotted⟩

end Sql
end SchemaMarkup
