import SchemaMarkup.Proofs.Merge.Emission

/-! The fields of emitted tables. Settling keeps field names, so the table that a merge emits
under a name has the field names of its draft: the complete fields of a created table, the
earlier and the added fields of an extended table, and all fields of a table that is kept.
-/

namespace SchemaMarkup

open OrderedMap Text

namespace MergeRequest

variable {r : MergeRequest} {m : Merged}

/-- Every draft is emitted as the table of its name, with the fields of the draft. -/
theorem exists_table_of_mem_drafts (h : r.merged = .ok m) {d : Draft} (hd : d ∈ r.drafts)
    : ∃ t, m.schema.table? d.name = some t ∧ t.fieldNames = d.table.fieldNames := by
  have distinct : m.schema.tableNames.Nodup := by
    rw [tableNames_merged h]
    exact nodup_names_drafts r
  have declared : d.name ∈ m.schema.tableNames := by
    rw [tableNames_merged h]
    exact List.mem_map_of_mem hd
  obtain ⟨t, ht, hn⟩ := List.mem_map.mp declared
  obtain ⟨d', hd', hr⟩ := exists_draft_of_mem_merged h ht
  -- Drafts have distinct names, so the table comes from this one.
  obtain rfl := List.inj_on_of_nodup_map (nodup_names_drafts r) hd' hd (hr.name_eq.symm.trans hn)
  exact ⟨t, hn ▸ Schema.table?_of_mem distinct ht, hr.fieldNames_eq⟩

/-- A created table has the complete fields among the new ones. -/
theorem exists_table_of_creates (h : r.merged = .ok m) {n : String} (hc : r.Creates n)
    : ∃ t, m.schema.table? n = some t ∧ ∀ x, x ∈ t.fieldNames
        ↔ ∃ f ∈ r.changes.newTables.getD n [], f.isIncomplete = false ∧ f.name = x := by
  obtain ⟨d, hd, rfl⟩ := List.mem_map.mp (mem_names_createdDrafts.mpr hc)
  obtain ⟨n, _, hn⟩ := List.mem_filterMap.mp hd
  have hname := (changed_of_createdDraft? hn).1
  obtain ⟨t, ht, hf⟩ := exists_table_of_mem_drafts h
    (List.mem_append_left _ (List.mem_append_left _ hd))
  refine ⟨t, ht, fun x => ?_⟩
  rw [createdDraft?, if_neg (by simp [hname ▸ hc.1])] at hn
  split at hn
  · cases hn
  · rename_i g gs hw
    obtain rfl := Option.some.inj hn
    rw [hf, Table.fieldNames, mem_names_distinctFields, ← hw, mem_names_writable]
    rfl

/-- An extended table has the complete fields among its earlier ones and those added to it. -/
theorem exists_table_of_extends (h : r.merged = .ok m) {n : String} (he : r.Extends n)
    (hc : ¬ r.Creates n)
    : let added := r.changes.newFields.getD n []
      ∃ t, m.schema.table? n = some t ∧ ∀ x, x ∈ t.fieldNames
        ↔ (∃ f ∈ r.earlierFields n added, f.isIncomplete = false ∧ f.name = x)
          ∨ ∃ f ∈ added, f.isIncomplete = false ∧ f.name = x := by
  intro added
  have hd : r.extendedDraft n ∈ r.drafts :=
    List.mem_append_left _ (List.mem_append_right _ (mem_extendedDrafts.mpr ⟨n, he, hc, rfl⟩))
  obtain ⟨t, ht, hf⟩ := exists_table_of_mem_drafts h hd
  refine ⟨t, ht, fun x => ?_⟩
  rw [hf, Table.fieldNames, extendedDraft, mem_names_distinctFields, List.map_append,
    List.mem_append, mem_names_writable, mem_names_writable]

/-- A table of the base that is kept has all its fields, provided that no other table of the
base has the same current name.
-/
theorem exists_table_of_keeps (h : r.merged = .ok m) {old : Table}
    (hb : r.base.table? old.name = some old) (hk : r.Keeps old.name)
    (apart : ∀ b ∈ r.base.tableNames, r.renames.current b = r.renames.current old.name
      → b = old.name)
    : ∃ t, m.schema.table? (r.renames.current old.name) = some t
        ∧ t.fieldNames = old.fieldNames := by
  have hn : r.renames.current old.name ∈ (r.keptDrafts (r.createdDrafts
      ++ r.extendedDrafts r.createdDrafts)).map Draft.name :=
    mem_names_keptDrafts.mpr ⟨old.name, List.mem_map_of_mem (Schema.mem_of_table?_eq_some hb).1,
      hk, rfl⟩
  obtain ⟨d, hd, hname⟩ := List.mem_map.mp hn
  obtain ⟨b, hm, hs⟩ := List.mem_filterMap.mp (mem_of_mem_distinctBy hd)
  obtain ⟨_, rfl⟩ := keptDraft?_eq_some_iff.mp hs
  have hbase := Schema.mem_distinctTables.mp hm
  have hsame : b.name = old.name :=
    apart b.name (List.mem_map_of_mem (mem_of_mem_distinctBy hm)) hname
  rw [hsame, hb] at hbase
  obtain rfl := Option.some.inj hbase
  obtain ⟨t, ht, hf⟩ := exists_table_of_mem_drafts h (List.mem_append_right _ hd)
  refine ⟨t, ht, hf.trans ?_⟩
  simp [Table.fieldNames, Function.comp_def]

end MergeRequest
end SchemaMarkup
