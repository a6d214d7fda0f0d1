import SchemaMarkup.Proofs.Merge.WellFormed

/-! Where the fields and references of a merged schema come from. Each field is one of the base,
of the proposal or of the changes under current table names, and settling can only give it a
settled type and take inline references away. Each reference is one of the proposal, or leads
from a merged field to the key of a merged table.
-/

namespace SchemaMarkup

open OrderedMap

/-- What settling may make of a field while the tables are known. -/
structure Field.SettlesTo (known : List String) (f f' : Field) : Prop where
  name_eq : f'.name = f.name
  note_eq : f'.note = f.note
  constraints_sublist : f'.constraints.Sublist f.constraints
  type : f'.type = f.type ∨ IsSettledType known f'.type

theorem Field.SettlesTo.refl (known : List String) (f : Field)
    : f.SettlesTo known f :=
  ⟨rfl, rfl, .refl _, .inl rfl⟩

theorem Field.settlesTo_of_resolve {c : Conventions} {known : List String} {table : String}
    {f : Field} {p : Field × List MergeNotice} (h : f.resolve c known table = .ok p)
    : f.SettlesTo known p.1 := by
  have hs := Field.settled_of_resolve h
  obtain ⟨type, _, h⟩ := Outcome.bind_eq_ok.mp h
  cases h
  -- Grounding leaves a field as it is or filters its constraints.
  have hg : (f.ground known table).1.note = f.note
      ∧ (f.ground known table).1.constraints.Sublist f.constraints := by
    rw [Field.ground]
    split
    · exact ⟨rfl, .refl _⟩
    · split
      · exact ⟨rfl, .refl _⟩
      · exact ⟨rfl, List.filter_sublist⟩
  exact ⟨hs.1, hg.1, hg.2, .inr hs.2⟩

/-- Every field of a settled draft is what settling made of one of its fields. -/
theorem Draft.exists_field_of_resolve {c : Conventions} {known : List String} {d : Draft}
    {p : Table × List MergeNotice} (h : d.resolve c known = .ok p) {f' : Field}
    (hf : f' ∈ p.1.fields)
    : ∃ f ∈ d.table.fields, f.SettlesTo known f' := by
  obtain ⟨fields, hd, h⟩ := Outcome.bind_eq_ok.mp h
  cases h
  obtain ⟨q, hq, rfl⟩ := List.mem_map.mp hf
  obtain ⟨f, hf, he⟩ := Outcome.exists_of_mem_mapM hd hq
  refine ⟨f, hf, ?_⟩
  split at he
  · exact Field.settlesTo_of_resolve he
  · cases he
    exact .refl known f

namespace MergeRequest

variable {r : MergeRequest}

/-- Whether a field is one that a request brings along. -/
inductive Brings (r : MergeRequest) (f : Field) : Prop
  | ofBase {t : Table} (declared : t ∈ r.base.tables) (mem : f ∈ t.fields)
  | ofProposal {t : Table} (declared : t ∈ r.proposal.tables) (mem : f ∈ t.fields)
  | ofChanges {kind : AdditionKind} {e : String × List Field}
    (pending : e ∈ (r.changes.entries kind).entries) (mem : f ∈ e.2)

theorem brings_of_mem_changes (kind : AdditionKind) {name : String} {f : Field}
    (h : f ∈ (r.changes.entries kind).getD name [])
    : r.Brings f := by
  by_cases hk : name ∈ (r.changes.entries kind).keys
  · exact .ofChanges (entry_getD hk []) h
  · rw [getD_of_notMem hk] at h
    cases h

theorem mem_tables_of_declaration? {s : Schema} {name : String} {t : Table}
    (h : r.declaration? s name = some t)
    : t ∈ s.tables := by
  obtain ⟨n, _, h⟩ := List.exists_of_findSome?_eq_some h
  exact (Schema.mem_of_table?_eq_some h).1

/-- The earlier fields of an extended table are those of its declarations. -/
theorem brings_of_mem_earlierFields {name : String} {added : List Field} {f : Field}
    (h : f ∈ r.earlierFields name added)
    : r.Brings f := by
  rw [earlierFields] at h
  split at h
  · rename_i old new _ hn
    exact .ofProposal (mem_tables_of_declaration? hn) (List.mem_filter.mp h).1
  · rename_i old ho _
    exact .ofBase (mem_tables_of_declaration? ho) h
  · rename_i new _ hn
    exact .ofProposal (mem_tables_of_declaration? hn) (List.mem_filter.mp h).1
  · cases h

/-- A writable field is one of the fields under current table names. -/
theorem exists_of_mem_writable {fields : List Field} {f : Field} (h : f ∈ r.writable fields)
    : ∃ g ∈ fields, f = g.rename r.renames := by
  obtain ⟨g, hg, rfl⟩ := List.mem_map.mp h
  exact ⟨g, (List.mem_filter.mp hg).1, rfl⟩

/-- Every field of a draft is one that the request brings along, under current table names. -/
theorem exists_brought_of_mem_drafts {d : Draft} (hd : d ∈ r.drafts) {f : Field}
    (hf : f ∈ d.table.fields)
    : ∃ g, r.Brings g ∧ f = g.rename r.renames := by
  rcases List.mem_append.mp hd with hd | hd
  · rcases List.mem_append.mp hd with hd | hd
    · obtain ⟨name, _, hd⟩ := List.mem_filterMap.mp hd
      rw [createdDraft?] at hd
      split at hd
      · cases hd
      · split at hd
        · cases hd
        · rename_i g gs hw
          obtain rfl := Option.some.inj hd
          have hf := mem_of_mem_distinctBy hf
          rw [← hw] at hf
          obtain ⟨g, hg, rfl⟩ := exists_of_mem_writable hf
          exact ⟨g, brings_of_mem_changes .newTables hg, rfl⟩
    · obtain ⟨n, _, _, rfl⟩ := mem_extendedDrafts.mp hd
      rcases List.mem_append.mp (mem_of_mem_distinctBy hf) with hf | hf
      · obtain ⟨g, hg, rfl⟩ := exists_of_mem_writable hf
        exact ⟨g, brings_of_mem_earlierFields hg, rfl⟩
      · obtain ⟨g, hg, rfl⟩ := exists_of_mem_writable hf
        exact ⟨g, brings_of_mem_changes .newFields hg, rfl⟩
  · obtain ⟨t, ht, hd⟩ := List.mem_filterMap.mp (mem_of_mem_distinctBy hd)
    obtain ⟨_, rfl⟩ := keptDraft?_eq_some_iff.mp hd
    obtain ⟨g, hg, rfl⟩ := List.mem_map.mp hf
    exact ⟨g, .ofBase (mem_of_mem_distinctBy ht) hg, rfl⟩

/-- Every field of a merged table is one that the request brings along, under current table
names and settled.
-/
theorem exists_brought_of_mem_merged {m : Merged} (h : r.merged = .ok m) {t : Table}
    (ht : t ∈ m.schema.tables) {f : Field} (hf : f ∈ t.fields)
    : ∃ g, r.Brings g ∧ (g.rename r.renames).SettlesTo m.schema.tableNames f := by
  rw [tableNames_merged h]
  obtain ⟨resolved, hr, hs⟩ := exists_resolved_of_merged h
  rw [hs] at ht
  obtain ⟨p, hp, rfl⟩ := List.mem_map.mp ht
  obtain ⟨d, hd, he⟩ := Outcome.exists_of_mem_mapM hr hp
  obtain ⟨f', hf', hset⟩ := Draft.exists_field_of_resolve he hf
  obtain ⟨g, hg, rfl⟩ := exists_brought_of_mem_drafts hd hf'
  exact ⟨g, hg, hset⟩

/-- Every reference of a merged schema is one of the proposal under current table names, or leads
from a field to the key of a table.
-/
theorem proposed_or_implied_of_mem_merged {m : Merged} (h : r.merged = .ok m) {ref : Ref}
    (hr : ref ∈ m.schema.refs)
    : (∃ q ∈ r.proposal.refs, ref = q.rename r.renames)
      ∨ ∃ t ∈ m.schema.tables, ∃ f ∈ t.fields, ∃ target ∈ m.schema.tables,
          ref = ⟨t.name, f.name, .manyToOne, target.name, r.conventions.keyFieldName target⟩ := by
  have distinct := (wellFormed_of_merged h).tablesDistinct
  rw [refs_merged h] at hr
  rcases List.mem_append.mp hr with hr | hr
  · have hm := (List.mem_filter.mp (mem_of_mem_distinctBy hr)).1
    obtain ⟨q, hq, rfl⟩ := List.mem_map.mp hm
    exact .inl ⟨q, hq, rfl⟩
  · obtain ⟨t, ht, f, hf, target, hm, _, rfl⟩ :=
      (mem_impliedRefs_types distinct).mp (mem_of_mem_distinctBy hr)
    exact .inr ⟨t, ht, f, hf, target, hm, rfl⟩

end MergeRequest
end SchemaMarkup
