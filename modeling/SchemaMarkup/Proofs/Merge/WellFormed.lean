import SchemaMarkup.Proofs.Merge.Emission

/-! The merged schema is well formed whatever is merged. Its tables and relationships are
distinct, fields that come from changes have settled types, references have both ends, every
field whose type is a table is covered by a reference, and groups list emitted tables only.
-/

namespace SchemaMarkup

open Text

theorem Ref.isGrounded_iff {ref : Ref} {tables : List Table}
    : ref.isGrounded tables = true
      ↔ (∃ t ∈ tables, t.name = ref.sourceTable ∧ ref.sourceField ∈ t.fieldNames)
        ∧ ref.targetTable ∈ tables.map Table.name := by
  simp [isGrounded, Table.declares, Table.fieldNames]

/-- Among tables of distinct names, the last declaration of a name is the only one. -/
theorem lastTable?_eq_some_iff {tables : List Table} (h : (tables.map Table.name).Nodup)
    {name : String} {t : Table}
    : lastTable? tables name = some t ↔ t ∈ tables ∧ t.name = name := by
  rw [lastTable?]
  constructor
  · intro hl
    refine ⟨List.mem_reverse.mp (List.mem_of_find?_eq_some hl), ?_⟩
    simpa using List.find?_some hl
  · intro h
    obtain ⟨ht, rfl⟩ := h
    have hs : (tables.reverse.find? (·.name = t.name)).isSome := by
      rw [List.find?_isSome]
      exact ⟨t, List.mem_reverse.mpr ht, by simp⟩
    obtain ⟨u, hu⟩ := Option.isSome_iff_exists.mp hs
    have hm : u ∈ tables := List.mem_reverse.mp (List.mem_of_find?_eq_some hu)
    have hn : u.name = t.name := by simpa using List.find?_some hu
    rw [hu, List.inj_on_of_nodup_map h hm ht hn]

/-- The references that field types imply lead from a field to the table its type names. -/
theorem mem_impliedRefs_types {c : Conventions} {tables : List Table} {ref : Ref}
    (h : (tables.map Table.name).Nodup)
    : ref ∈ impliedRefs c tables (fun f => lastTable? tables f.type)
      ↔ ∃ t ∈ tables, ∃ f ∈ t.fields, ∃ target ∈ tables, target.name = f.type
        ∧ ref = ⟨t.name, f.name, .manyToOne, target.name, c.keyFieldName target⟩ := by
  simp only [impliedRefs, List.mem_flatMap, List.mem_filterMap, Option.map_eq_some_iff,
    lastTable?_eq_some_iff h]
  constructor
  · intro h
    obtain ⟨t, ht, f, hf, target, ⟨hm, hn⟩, rfl⟩ := h
    exact ⟨t, ht, f, hf, target, hm, hn, rfl⟩
  · intro h
    obtain ⟨t, ht, f, hf, target, hm, hn, rfl⟩ := h
    exact ⟨t, ht, f, hf, target, ⟨hm, hn⟩, rfl⟩

namespace MergeRequest

variable {r : MergeRequest}

/-- The references of a merge are distinct as relationships: those kept are made distinct, and
those added are none of them.
-/
theorem nodup_relationships_mergedRefs (tables : List Table)
    : ((r.mergedRefs tables).map (Ref.relationship r.conventions)).Nodup := by
  rw [mergedRefs, List.map_append, List.nodup_append]
  refine ⟨nodup_keys_distinctBy _ _ _, nodup_keys_distinctBy _ _ _, ?_⟩
  intro a ha b hb he
  subst he
  obtain ⟨ref, hr, rfl⟩ := List.mem_map.mp hb
  exact key_notMem_of_mem_distinctBy hr ha

/-- Both ends of every reference of a merge are among its tables. -/
theorem isGrounded_of_mem_mergedRefs {tables : List Table} (h : (tables.map Table.name).Nodup)
    {ref : Ref} (hr : ref ∈ r.mergedRefs tables)
    : ref.isGrounded tables = true := by
  rcases List.mem_append.mp hr with hr | hr
  · exact (List.mem_filter.mp (mem_of_mem_distinctBy hr)).2
  · obtain ⟨t, ht, f, hf, target, hm, _, rfl⟩ :=
      (mem_impliedRefs_types h).mp (mem_of_mem_distinctBy hr)
    refine Ref.isGrounded_iff.mpr ⟨⟨t, ht, rfl, ?_⟩, ?_⟩
    · exact List.mem_map_of_mem hf
    · exact List.mem_map_of_mem hm

/-- Every field whose type names a table is covered: its relationship is kept from the proposal
or added.
-/
theorem relationship_mem_mergedRefs {tables : List Table} (h : (tables.map Table.name).Nodup)
    {t target : Table} {f : Field} (ht : t ∈ tables) (hf : f ∈ t.fields)
    (hm : target ∈ tables) (hn : target.name = f.type)
    : (⟨t.name, f.name, target.name, r.conventions.unifyKey (r.conventions.keyFieldName target)⟩
        : Relationship)
      ∈ (r.mergedRefs tables).map (Ref.relationship r.conventions) := by
  rw [mergedRefs, List.map_append, List.mem_append]
  refine or_iff_not_imp_left.mpr fun hk => ?_
  have hi := (mem_impliedRefs_types (c := r.conventions) h).mpr
    ⟨t, ht, f, hf, target, hm, hn, rfl⟩
  exact mem_map_distinctBy.mpr ⟨hk, List.mem_map.mpr ⟨_, hi, rfl⟩⟩

end MergeRequest

namespace TableGroup

variable {g : TableGroup} {available touched : List String} {m : Renames}

/-- The tables that a rebuilt group lists are the available ones among its members, under their
current names, and the touched ones.
-/
theorem mem_tables_rebuild {n : String}
    : n ∈ (g.rebuild available touched m).members.map Member.table
      ↔ n ∈ available ∧ (n ∈ g.members.map (fun e => m.current e.table) ∨ n ∈ touched) := by
  have hs : n ∈ (g.survivors available m).map Member.table
      ↔ n ∈ available ∧ n ∈ g.members.map (fun e => m.current e.table) := by
    rw [survivors, mem_map_distinctBy_nil]
    simp only [List.mem_map, List.mem_filter, decide_eq_true_eq]
    constructor
    · intro h
      obtain ⟨_, ⟨⟨e, he, rfl⟩, ha⟩, rfl⟩ := h
      exact ⟨ha, e, he, rfl⟩
    · intro h
      obtain ⟨ha, e, he, rfl⟩ := h
      exact ⟨_, ⟨⟨e, he, rfl⟩, ha⟩, rfl⟩
  have ha : n ∈ ((touched.eraseDups.filter fun t => t ∈ available
        && t ∉ (g.survivors available m).map Member.table).map
          (fun t => (⟨t, none⟩ : Member))).map Member.table
      ↔ n ∈ touched ∧ n ∈ available ∧ n ∉ (g.survivors available m).map Member.table := by
    rw [List.map_map]
    simp [Function.comp_def]
  rw [rebuild, List.map_append, List.mem_append, ha, hs]
  tauto

/-- A rebuilt group lists no table twice. -/
theorem nodup_tables_rebuild
    : ((g.rebuild available touched m).members.map Member.table).Nodup := by
  have ha : ∀ names : List String,
      (names.map fun t => (⟨t, none⟩ : Member)).map Member.table = names := by
    intro names
    rw [List.map_map]
    exact List.map_id names
  rw [rebuild, List.map_append, ha, List.nodup_append]
  refine ⟨nodup_keys_distinctBy _ _ _, (nodup_eraseDups touched).filter _, ?_⟩
  intro n hs _ ht he
  subst he
  have hn := (List.mem_filter.mp ht).2
  simp only [Bool.and_eq_true, decide_eq_true_eq] at hn
  exact hn.2 hs

end TableGroup

namespace MergeRequest

/-- What a schema that comes out of a merge satisfies. -/
structure WellFormed (r : MergeRequest) (s : Schema) : Prop where
  /-- The tables are those that changes create or extend and those of the base that are kept. -/
  tables_iff : ∀ n, n ∈ s.tableNames
    ↔ r.Creates n ∨ r.Extends n ∨ ∃ b ∈ r.base.tableNames, r.Keeps b ∧ r.renames.current b = n
  /-- No table name occurs twice. -/
  tablesDistinct : s.tableNames.Nodup
  /-- In a table that the changes concern, no field name occurs twice. -/
  fieldsDistinct : ∀ t ∈ s.tables, t.name ∈ r.changes.tableNames → t.fieldNames.Nodup
  /-- In a table that the changes concern, every field has a name. -/
  fieldsNamed : ∀ t ∈ s.tables, t.name ∈ r.changes.tableNames →
    ∀ f ∈ t.fields, isBlankText f.name = false
  /-- The fields of created tables and the fields that are added to a table have a primitive
  type or a table of the schema as their type. -/
  typesSettled : ∀ t ∈ s.tables, ∀ f ∈ t.fields,
    r.Creates t.name ∨ f.name ∈ r.addedNames t.name → IsSettledType s.tableNames f.type
  /-- The source of every reference is a field that its table declares. -/
  refsDeclared : ∀ ref ∈ s.refs,
    ∃ t ∈ s.tables, t.name = ref.sourceTable ∧ ref.sourceField ∈ t.fieldNames
  /-- The target of every reference is a table of the schema. -/
  refsTargeted : ∀ ref ∈ s.refs, ref.targetTable ∈ s.tableNames
  /-- No relationship is stated twice. -/
  refsDistinct : (s.refs.map (Ref.relationship r.conventions)).Nodup
  /-- A field whose type is a table has its relationship to the key of that table stated. -/
  typesCovered : ∀ t ∈ s.tables, ∀ f ∈ t.fields, ∀ target ∈ s.tables, target.name = f.type →
    ∃ ref ∈ s.refs, ref.relationship r.conventions
      = ⟨t.name, f.name, target.name,
          r.conventions.unifyKey (r.conventions.keyFieldName target)⟩
  /-- The groups are those of the proposal, in order and with their notes and colors. -/
  groupsKept : s.groups.map (fun g => (g.name, g.note, g.color))
    = r.proposal.groups.map (fun g => (g.name, g.note, g.color))
  /-- Groups list tables of the schema. -/
  membersDeclared : ∀ g ∈ s.groups, ∀ e ∈ g.members, e.table ∈ s.tableNames
  /-- No group lists a table twice. -/
  membersDistinct : ∀ g ∈ s.groups, (g.members.map Member.table).Nodup
  /-- Every group lists all tables that the changes concern. -/
  changesListed : ∀ g ∈ s.groups, ∀ n ∈ s.tableNames, n ∈ r.changes.tableNames →
    n ∈ g.members.map Member.table

variable {r : MergeRequest}

/-- A table of the merged schema that the changes concern is a changed draft, settled. -/
theorem exists_changed_of_mem_merged {m : Merged} (h : r.merged = .ok m) {t : Table}
    (ht : t ∈ m.schema.tables) (hc : t.name ∈ r.changes.tableNames)
    : ∃ d, r.Changed d ∧ d.Resolved m.schema.tableNames t := by
  obtain ⟨d, hd, hr⟩ := exists_draft_of_mem_merged h ht
  rcases changed_or_kept hd with hd | hd
  · exact ⟨d, hd, hr⟩
  · exact absurd (hr.name_eq ▸ hc) hd.notMem_tableNames

/-- A successful merge gives a well-formed schema, whatever the request. -/
theorem wellFormed_of_merged {m : Merged} (h : r.merged = .ok m)
    : r.WellFormed m.schema := by
  have hd : m.schema.tableNames.Nodup := by
    rw [tableNames_merged h]
    exact nodup_names_drafts r
  have hrefs := refs_merged h
  have hgroups : m.schema.groups = r.proposal.groups.map fun g =>
      g.rebuild m.schema.tableNames r.touchedNames r.renames :=
    groups_merged h
  have hground : ∀ ref ∈ m.schema.refs, ref.isGrounded m.schema.tables = true := by
    intro ref hr
    rw [hrefs] at hr
    exact isGrounded_of_mem_mergedRefs hd hr
  refine
    { tables_iff := fun n => mem_tableNames_merged h
      tablesDistinct := hd
      fieldsDistinct := ?fieldsDistinct
      fieldsNamed := ?fieldsNamed
      typesSettled := ?typesSettled
      refsDeclared := fun ref hr => (Ref.isGrounded_iff.mp (hground ref hr)).1
      refsTargeted := fun ref hr => (Ref.isGrounded_iff.mp (hground ref hr)).2
      refsDistinct := by
        rw [hrefs]
        exact nodup_relationships_mergedRefs m.schema.tables
      typesCovered := ?typesCovered
      groupsKept := by
        rw [hgroups, List.map_map]
        rfl
      membersDeclared := ?membersDeclared
      membersDistinct := ?membersDistinct
      changesListed := ?changesListed }
  case fieldsDistinct =>
    intro t ht hc
    obtain ⟨d, hd, hr⟩ := exists_changed_of_mem_merged h ht hc
    rw [hr.fieldNames_eq]
    exact hd.distinct
  case fieldsNamed =>
    intro t ht hc f hf
    obtain ⟨d, hd, hr⟩ := exists_changed_of_mem_merged h ht hc
    apply hd.named
    rw [← hr.fieldNames_eq]
    exact List.mem_map_of_mem hf
  case typesSettled =>
    intro t ht f hf ha
    have hc : t.name ∈ r.changes.tableNames := by
      by_contra hn
      rcases ha with ha | ha
      · exact hn ha.mem_tableNames
      · rw [addedNames_eq_nil hn] at ha
        cases ha
    obtain ⟨d, hd, hr⟩ := exists_changed_of_mem_merged h ht hc
    refine hr.settled f hf (hd.settles f.name ?_ (hr.name_eq ▸ ha))
    rw [← hr.fieldNames_eq]
    exact List.mem_map_of_mem hf
  case typesCovered =>
    intro t ht f hf target hm hn
    have hc := relationship_mem_mergedRefs (r := r) hd ht hf hm hn
    rw [← hrefs] at hc
    exact List.mem_map.mp hc
  case membersDeclared =>
    intro g hg e he
    rw [hgroups] at hg
    obtain ⟨g, _, rfl⟩ := List.mem_map.mp hg
    exact (TableGroup.mem_tables_rebuild.mp (List.mem_map_of_mem he)).1
  case membersDistinct =>
    intro g hg
    rw [hgroups] at hg
    obtain ⟨g, _, rfl⟩ := List.mem_map.mp hg
    exact TableGroup.nodup_tables_rebuild
  case changesListed =>
    intro g hg n hn hc
    rw [hgroups] at hg
    obtain ⟨g, _, rfl⟩ := List.mem_map.mp hg
    have ht : n ∈ r.touchedNames := mem_touchedNames.mpr ⟨tableNames_merged h ▸ hn, hc⟩
    exact TableGroup.mem_tables_rebuild.mpr ⟨hn, .inr ht⟩

/-- Under the standard conventions every merge succeeds and gives a well-formed schema,
whether or not the schemas, the changes, the renames and the order agree with each other.
-/
theorem merged_wellFormed (base proposal : Schema) (changes : Additions) (renames : Renames)
    (order : DisplayOrder)
    : let r : MergeRequest := { base, proposal, changes, renames, order }
      ∃ m, r.merged = .ok m ∧ r.WellFormed m.schema := by
  intro r
  obtain ⟨m, h⟩ := exists_merged (r := r) Conventions.namesPrimitives_standard
  exact ⟨m, h, wellFormed_of_merged h⟩

end MergeRequest
end SchemaMarkup
