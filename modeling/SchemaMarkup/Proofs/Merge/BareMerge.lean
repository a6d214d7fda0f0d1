import SchemaMarkup.Proofs.Markup.Bare
import SchemaMarkup.Proofs.Merge.Closed
import SchemaMarkup.Proofs.Merge.Origins

/-! Merges of bare schemas. If everything that goes into a merge is made of words, then so is the
merged schema, and if the fields of base tables are distinct, then so are those of merged tables.
-/

namespace SchemaMarkup

open OrderedMap Text

namespace MergeRequest

/-- Whether all that goes into a merge is made of words, without notes, constraints and groups, and
no base table repeats a field.
-/
structure Bare (r : MergeRequest) : Prop where
  base : r.base.Bare
  proposal : r.proposal.Bare
  additions
    : ∀ kind, ∀ e ∈ (r.changes.entries kind).entries,
        isWordText e.1 = true ∧ ∀ f ∈ e.2, f.Bare
  undescribed : r.changes.descriptions = {}
  renames : ∀ n ∈ r.renames.values, isWordText n = true
  key : isWordText r.conventions.keys.main = true
  fieldsDistinct : ∀ t ∈ r.base.tables, t.fieldNames.Nodup

instance (r : MergeRequest) : Decidable r.Bare :=
  decidable_of_iff (r.base.Bare ∧ r.proposal.Bare
      ∧ (∀ kind ∈ AdditionKind.all, ∀ e ∈ (r.changes.entries kind).entries,
          isWordText e.1 = true ∧ ∀ f ∈ e.2, f.Bare)
      ∧ r.changes.descriptions = {} ∧ (∀ n ∈ r.renames.values, isWordText n = true)
      ∧ isWordText r.conventions.keys.main = true
      ∧ ∀ t ∈ r.base.tables, t.fieldNames.Nodup)
    ⟨fun h => ⟨h.1, h.2.1, fun kind => h.2.2.1 kind (by cases kind <;> decide), h.2.2.2.1,
      h.2.2.2.2.1, h.2.2.2.2.2.1, h.2.2.2.2.2.2⟩,
      fun h => ⟨h.base, h.proposal, fun kind _ => h.additions kind, h.undescribed, h.renames,
        h.key, h.fieldsDistinct⟩⟩

variable {r : MergeRequest}

/-- A draft comes from the changes, or it is a base table under its current name. -/
theorem changed_or_base {d : Draft} (hd : d ∈ r.drafts)
    : (d ∈ r.createdDrafts ∨ d ∈ r.extendedDrafts r.createdDrafts) ∧ r.Changed d
      ∨ ∃ t ∈ r.base.tables, d.table = t.rename r.renames := by
  rcases List.mem_append.mp hd with hd | hd
  · exact .inl ⟨List.mem_append.mp hd, changed_of_mem hd⟩
  · obtain ⟨t, ht, hd⟩ := List.mem_filterMap.mp (mem_of_mem_distinctBy hd)
    obtain ⟨_, rfl⟩ := keptDraft?_eq_some_iff.mp hd
    exact .inr ⟨t, mem_of_mem_distinctBy ht, rfl⟩

namespace Bare

/-- Renaming leads from words to words. -/
theorem current (h : r.Bare) {n : String} (hn : isWordText n = true)
    : isWordText (r.renames.current n) = true := by
  rcases Renames.current_eq_or_mem_values r.renames n with he | hv
  · rwa [he]
  · exact h.renames _ hv

theorem word_of_mem_tableNames (h : r.Bare) {m : Merged} (done : r.merged = .ok m) {n : String}
    (hn : n ∈ m.schema.tableNames)
    : isWordText n = true := by
  have changed {n : String} (hc : n ∈ r.changes.tableNames) : isWordText n = true := by
    obtain ⟨kind, hk⟩ := Additions.mem_tableNames.mp hc
    obtain ⟨fields, he⟩ := mem_keys.mp hk
    exact (h.additions kind _ he).1
  rcases (mem_tableNames_merged done).mp hn with hc | he | ⟨b, hb, _, rfl⟩
  · exact changed hc.mem_tableNames
  · exact changed he.mem_tableNames
  · obtain ⟨t, ht, rfl⟩ := List.mem_map.mp hb
    exact h.current (h.base.tables t ht).name

/-- The fields that a bare request brings along are bare. -/
theorem bare_of_brings (h : r.Bare) {f : Field} (hf : r.Brings f)
    : f.Bare := by
  cases hf with
  | ofBase declared mem => exact (h.base.tables _ declared).fields f mem
  | ofProposal declared mem => exact (h.proposal.tables _ declared).fields f mem
  | ofChanges pending mem => exact (h.additions _ _ pending).2 f mem

/-- A bare field stays bare when it is settled, as all settled types are words. -/
theorem bare_of_settlesTo (h : r.Bare) {m : Merged} (done : r.merged = .ok m) {f f' : Field}
    (hf : f.Bare) (hs : (f.rename r.renames).SettlesTo m.schema.tableNames f')
    : f'.Bare := by
  have type : isWordText f'.type = true := by
    rcases hs.type with he | ⟨p, he⟩ | ht
    · rw [he]
      exact h.current hf.type
    · rw [he]
      cases p <;> decide
    · exact h.word_of_mem_tableNames done ht
  have constraints : f'.constraints = [] := by
    have hc := hs.constraints_sublist
    rw [Field.rename, hf.unconstrained] at hc
    exact List.sublist_nil.mp hc
  exact {
    name := hs.name_eq ▸ hf.name
    notNote := hs.name_eq ▸ hf.notNote
    type
    unnoted := hs.note_eq.trans hf.unnoted
    unconstrained := constraints
  }

/-- No draft of a bare request has a note. -/
theorem note_of_mem_drafts (h : r.Bare) {d : Draft} (hd : d ∈ r.drafts)
    : d.table.note = none := by
  have declared (s : Schema) (hs : s.Bare) (name : String)
      : (r.declaration? s name).bind Table.note = none := by
    cases ht : r.declaration? s name with
    | none => rfl
    | some t => exact (hs.tables t (mem_tables_of_declaration? ht)).unnoted
  rcases changed_or_base hd with ⟨hd | hd, _⟩ | ⟨t, ht, he⟩
  · obtain ⟨name, _, hd⟩ := List.mem_filterMap.mp hd
    rw [createdDraft?] at hd
    split at hd
    · cases hd
    · split at hd
      · cases hd
      · obtain rfl := Option.some.inj hd
        rw [h.undescribed]
        rfl
  · obtain ⟨name, _, _, rfl⟩ := mem_extendedDrafts.mp hd
    simp only [extendedDraft, extendedNote, h.undescribed, declared _ h.proposal,
      declared _ h.base]
    rfl
  · rw [he]
    exact (h.base.tables t ht).unnoted

/-- No draft of a bare request repeats a field. -/
theorem nodup_of_mem_drafts (h : r.Bare) {d : Draft} (hd : d ∈ r.drafts)
    : d.table.fieldNames.Nodup := by
  rcases changed_or_base hd with ⟨_, hc⟩ | ⟨t, ht, he⟩
  · exact hc.distinct
  · rw [he, Table.fieldNames_rename]
    exact h.fieldsDistinct t ht

/-- A merged table is made of words and repeats no field. -/
theorem bare_of_mem_merged (h : r.Bare) {m : Merged} (done : r.merged = .ok m) {t : Table}
    (ht : t ∈ m.schema.tables)
    : t.Bare ∧ t.fieldNames.Nodup := by
  obtain ⟨d, hd, hr⟩ := exists_draft_of_mem_merged done ht
  refine ⟨{ name := ?_, unnoted := ?_, fields := ?_ }, ?_⟩
  · exact h.word_of_mem_tableNames done (List.mem_map_of_mem ht)
  · exact hr.note_eq.trans (h.note_of_mem_drafts hd)
  · intro f hf
    obtain ⟨g, hg, hs⟩ := exists_brought_of_mem_merged done ht hf
    exact h.bare_of_settlesTo done (h.bare_of_brings hg) hs
  · rw [hr.fieldNames_eq]
    exact h.nodup_of_mem_drafts hd

/-- The references of a merge are made of words: those of the proposal under current names, and
those from fields to the keys of tables.
-/
theorem bare_of_mem_refs (h : r.Bare) {m : Merged} (done : r.merged = .ok m) {ref : Ref}
    (hr : ref ∈ m.schema.refs)
    : ref.Bare := by
  rcases proposed_or_implied_of_mem_merged done hr with
    ⟨q, hq, rfl⟩ | ⟨t, ht, f, hf, target, hm, rfl⟩
  · have hb := h.proposal.refs q hq
    exact ⟨h.current hb.sourceTable, hb.sourceField, h.current hb.targetTable, hb.targetField⟩
  · have table := (h.bare_of_mem_merged done ht).1
    have targetTable := (h.bare_of_mem_merged done hm).1
    refine ⟨table.name, (table.fields f hf).name, targetTable.name, ?_⟩
    change isWordText (r.conventions.keyFieldName target) = true
    rw [Conventions.keyFieldName]
    split
    · rename_i key hk
      exact (targetTable.fields key (List.mem_of_find?_eq_some hk)).name
    · exact h.key

/-- Whatever is merged from a bare request is bare, and no table of it repeats a field. -/
theorem bare_merged (h : r.Bare) {m : Merged} (done : r.merged = .ok m)
    : m.schema.Bare ∧ ∀ t ∈ m.schema.tables, t.fieldNames.Nodup := by
  have ungrouped : m.schema.groups = [] := by
    rw [groups_merged done, mergedGroups, h.proposal.ungrouped]
    rfl
  have schema : m.schema.Bare := {
    tables := fun t ht => (h.bare_of_mem_merged done ht).1
    refs := fun ref hr => h.bare_of_mem_refs done hr
    ungrouped
  }
  exact ⟨schema, fun t ht => (h.bare_of_mem_merged done ht).2⟩

end Bare
end MergeRequest
end SchemaMarkup
