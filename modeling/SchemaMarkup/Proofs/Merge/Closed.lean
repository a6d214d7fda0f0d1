import SchemaMarkup.Proofs.Merge.WellFormed
import SchemaMarkup.Proofs.Session.Renaming

/-! Merging without changes. A schema that comes out of a merge is closed: its references have
both ends and state every relationship that its field types imply. Merging a closed schema with
itself under a record of renames renames its tables wherever they are mentioned and does nothing
else, as long as the renames keep apart what the schema tells apart.
-/

namespace SchemaMarkup

open OrderedMap

-----------------------------------------------------------------------------------------
-- Schemas to which merging has nothing to add
-----------------------------------------------------------------------------------------

/-- Whether a schema is complete in itself: nothing dangles in it, nothing is repeated, and no
relationship is implied that is not stated.
-/
structure Schema.Closed (c : Conventions) (s : Schema) : Prop where
  tablesDistinct : s.tableNames.Nodup
  refsGrounded : ∀ ref ∈ s.refs, ref.isGrounded s.tables = true
  refsDistinct : (s.refs.map (Ref.relationship c)).Nodup
  typesCovered
    : ∀ t ∈ s.tables, ∀ f ∈ t.fields, ∀ target ∈ s.tables, target.name = f.type →
        (⟨t.name, f.name, target.name, c.unifyKey (c.keyFieldName target)⟩ : Relationship)
          ∈ s.refs.map (Ref.relationship c)
  membersDeclared : ∀ g ∈ s.groups, ∀ e ∈ g.members, e.table ∈ s.tableNames
  membersDistinct : ∀ g ∈ s.groups, (g.members.map Member.table).Nodup

/-- A well-formed result of a merge is closed. -/
theorem MergeRequest.WellFormed.closed {r : MergeRequest} {s : Schema} (h : r.WellFormed s)
    : s.Closed r.conventions where
  tablesDistinct := h.tablesDistinct
  refsGrounded ref hr := Ref.isGrounded_iff.mpr ⟨h.refsDeclared ref hr, h.refsTargeted ref hr⟩
  refsDistinct := h.refsDistinct
  typesCovered t ht f hf target hm hn := List.mem_map.mpr (h.typesCovered t ht f hf target hm hn)
  membersDeclared := h.membersDeclared
  membersDistinct := h.membersDistinct

-----------------------------------------------------------------------------------------
-- Schemas under current table names
-----------------------------------------------------------------------------------------

/-- A table under its current name, with fields that follow the names of tables. -/
def Table.rename (m : Renames) (t : Table) : Table :=
  { t with name := m.current t.name, fields := t.fields.map (Field.rename m) }

/-- A member under the current name of its table. -/
def Member.rename (m : Renames) (e : Member) : Member :=
  { e with table := m.current e.table }

/-- A group whose members follow the names of tables. -/
def TableGroup.rename (m : Renames) (g : TableGroup) : TableGroup :=
  { g with members := g.members.map (Member.rename m) }

/-- A schema in which every mention of a table follows the name of that table. -/
def Schema.rename (m : Renames) (s : Schema) : Schema where
  tables := s.tables.map (Table.rename m)
  refs := s.refs.map (Ref.rename m)
  groups := s.groups.map (TableGroup.rename m)

/-- A relationship between fields of tables under their current names. -/
def Relationship.rename (m : Renames) (r : Relationship) : Relationship :=
  { r with sourceTable := m.current r.sourceTable, targetTable := m.current r.targetTable }

/-- Renaming tables renames the relationship of a reference, whichever way it is read. -/
theorem Ref.relationship_rename (c : Conventions) (m : Renames) (r : Ref)
    : (r.rename m).relationship c = (r.relationship c).rename m := by
  obtain ⟨sourceTable, sourceField, cardinality, targetTable, targetField⟩ := r
  cases cardinality <;> rfl

@[simp]
theorem Table.fieldNames_rename (m : Renames) (t : Table)
    : (t.rename m).fieldNames = t.fieldNames := by
  simp [fieldNames, rename]

theorem Schema.tableNames_rename (m : Renames) (s : Schema)
    : (s.rename m).tableNames = s.tableNames.map m.current := by
  simp [tableNames, rename, Table.rename]

/-- The key of a table is found by field names, which renaming keeps. -/
theorem Conventions.keyFieldName_rename (c : Conventions) (m : Renames) (t : Table)
    : c.keyFieldName (t.rename m) = c.keyFieldName t := by
  have hk : c.keyField? (t.rename m) = (c.keyField? t).map (Field.rename m) := by
    rw [keyField?, keyField?, Table.rename, List.find?_map]
    rfl
  rw [keyFieldName, keyFieldName, hk]
  cases c.keyField? t <;> rfl

/-- Whether renames keep apart what a schema tells apart: different tables get different names,
no table is left behind under a name that another one takes, and no field type that names no
table comes to name one.
-/
structure Renames.Fits (m : Renames) (s : Schema) : Prop where
  injective
    : ∀ a ∈ s.tableNames, ∀ b ∈ s.tableNames, m.current a = m.current b → a = b
  notReplaced : ∀ n ∈ s.tableNames, n ∈ m.values → n ∈ m.keys
  typesApart
    : ∀ t ∈ s.tables, ∀ f ∈ t.fields,
        m.current f.type ∈ s.tableNames.map m.current → f.type ∈ s.tableNames

/-- Without renames nothing that a schema tells apart is at risk. -/
theorem Renames.fits_empty (s : Schema)
    : ({} : Renames).Fits s where
  injective a _ b _ h := by
    rwa [current_of_notMem List.not_mem_nil, current_of_notMem List.not_mem_nil] at h
  notReplaced n _ hn := absurd hn List.not_mem_nil
  typesApart t _ f _ h := by
    obtain ⟨n, hn, he⟩ := List.mem_map.mp h
    rw [current_of_notMem List.not_mem_nil, current_of_notMem List.not_mem_nil] at he
    exact he ▸ hn

/-- Without renames a constraint stays as it is, an inline reference too. -/
theorem renameConstraint_empty (constraint : String)
    : renameConstraint {} constraint = constraint := by
  rw [renameConstraint]
  cases Markup.InlineRef.ofConstraint? constraint <;> rfl

/-- Without renames a schema stays as it is. -/
theorem Schema.rename_empty (s : Schema)
    : s.rename {} = s := by
  have fields : Field.rename {} = id := by
    funext f
    have hc : f.constraints.map (renameConstraint {}) = f.constraints := by
      rw [funext renameConstraint_empty]
      exact List.map_id _
    rw [Field.rename, hc]
    rfl
  have tables : Table.rename {} = id := by
    funext t
    rw [Table.rename, fields, List.map_id]
    rfl
  have refs : Ref.rename {} = id := rfl
  have groups : TableGroup.rename {} = id := by
    have members : Member.rename {} = id := rfl
    funext g
    rw [TableGroup.rename, members, List.map_id]
    rfl
  rw [Schema.rename, tables, refs, groups, List.map_id, List.map_id, List.map_id]

namespace Schema.Closed

variable {c : Conventions} {m : Renames} {s : Schema}

/-- Both tables of a relationship that a closed schema states are among its tables. -/
theorem tables_of_relationship (h : s.Closed c) {ref : Ref} (hr : ref ∈ s.refs)
    : (ref.relationship c).sourceTable ∈ s.tableNames
      ∧ (ref.relationship c).targetTable ∈ s.tableNames := by
  obtain ⟨⟨t, ht, hn, _⟩, htarget⟩ := Ref.isGrounded_iff.mp (h.refsGrounded ref hr)
  have hsource : ref.sourceTable ∈ s.tableNames := hn ▸ List.mem_map_of_mem ht
  rw [Ref.relationship, Relationship.between]
  split
  · exact ⟨htarget, hsource⟩
  · exact ⟨hsource, htarget⟩

/-- Renames that fit a closed schema leave it closed: its references keep their ends, their
relationships stay distinct, and field types name the same tables as before.
-/
theorem rename (h : s.Closed c) (fits : m.Fits s)
    : (s.rename m).Closed c := by
  have names := s.tableNames_rename m
  have relationships : (s.rename m).refs.map (Ref.relationship c)
      = (s.refs.map (Ref.relationship c)).map (Relationship.rename m) := by
    rw [Schema.rename, List.map_map, List.map_map]
    exact List.map_congr_left fun ref _ => Ref.relationship_rename c m ref
  refine {
    tablesDistinct := ?_
    refsGrounded := ?_
    refsDistinct := ?_
    typesCovered := ?_
    membersDeclared := ?_
    membersDistinct := ?_ }
  · rw [names]
    exact h.tablesDistinct.map_on fun a ha b hb => fits.injective a ha b hb
  · intro ref' hr'
    obtain ⟨ref, hr, rfl⟩ := List.mem_map.mp hr'
    obtain ⟨⟨t, ht, hn, hf⟩, htarget⟩ := Ref.isGrounded_iff.mp (h.refsGrounded ref hr)
    refine Ref.isGrounded_iff.mpr ⟨⟨t.rename m, List.mem_map_of_mem ht, ?_, ?_⟩, ?_⟩
    · exact congrArg m.current hn
    · rwa [Table.fieldNames_rename]
    · change m.current ref.targetTable ∈ (s.rename m).tableNames
      rw [names]
      exact List.mem_map_of_mem htarget
  · rw [relationships]
    refine h.refsDistinct.map_on ?_
    intro a ha b hb he
    obtain ⟨ra, hra, rfl⟩ := List.mem_map.mp ha
    obtain ⟨rb, hrb, rfl⟩ := List.mem_map.mp hb
    have ta := h.tables_of_relationship hra
    have tb := h.tables_of_relationship hrb
    simp only [Relationship.rename, Relationship.mk.injEq] at he
    obtain ⟨hs, hsf, ht, htf⟩ := he
    have hs := fits.injective _ ta.1 _ tb.1 hs
    have ht := fits.injective _ ta.2 _ tb.2 ht
    generalize ra.relationship c = a at hs hsf ht htf ⊢
    generalize rb.relationship c = b at hs hsf ht htf ⊢
    cases a
    cases b
    simp_all
  · intro t' ht' f' hf' target' hm' hn'
    obtain ⟨t, ht, rfl⟩ := List.mem_map.mp ht'
    obtain ⟨f, hf, rfl⟩ := List.mem_map.mp hf'
    obtain ⟨target, hm, rfl⟩ := List.mem_map.mp hm'
    have htarget : target.name ∈ s.tableNames := List.mem_map_of_mem hm
    have htype : f.type ∈ s.tableNames :=
      fits.typesApart t ht f hf (List.mem_map.mpr ⟨_, htarget, hn'⟩)
    have hn : target.name = f.type := fits.injective _ htarget _ htype hn'
    rw [relationships, Conventions.keyFieldName_rename]
    exact List.mem_map.mpr ⟨_, h.typesCovered t ht f hf target hm hn, rfl⟩
  · intro g' hg' e' he'
    obtain ⟨g, hg, rfl⟩ := List.mem_map.mp hg'
    obtain ⟨e, he, rfl⟩ := List.mem_map.mp he'
    rw [names]
    exact List.mem_map_of_mem (h.membersDeclared g hg e he)
  · intro g' hg'
    obtain ⟨g, hg, rfl⟩ := List.mem_map.mp hg'
    have hmap : (g.rename m).members.map Member.table
        = (g.members.map Member.table).map m.current := by
      simp [TableGroup.rename, Member.rename]
    rw [hmap]
    refine (h.membersDistinct g hg).map_on ?_
    intro a ha b hb
    obtain ⟨ea, hea, rfl⟩ := List.mem_map.mp ha
    obtain ⟨eb, heb, rfl⟩ := List.mem_map.mp hb
    exact fits.injective _ (h.membersDeclared g hg ea hea) _ (h.membersDeclared g hg eb heb)

end Schema.Closed
end SchemaMarkup
