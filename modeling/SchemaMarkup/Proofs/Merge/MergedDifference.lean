import SchemaMarkup.Proofs.Merge.FieldNames

/-! Merging all that a proposal adds. Tables that the base lacks are created with the fields of
the proposal, tables that gain a field are rebuilt from the proposal, and all others are kept.
So the proposal is absorbed, while the base loses the fields that the proposal leaves out of the
tables it rebuilds.
-/

namespace SchemaMarkup

open OrderedMap Text

namespace MergeRequest

/-- A request to merge what its proposal adds to its base, without renames. -/
structure MergesDifference (r : MergeRequest) : Prop where
  changes : r.changes = .between r.base r.proposal
  renames : r.renames = {}

namespace MergesDifference

variable {r : MergeRequest} {m : Merged}

theorem current (h : r.MergesDifference) (n : String)
    : r.renames.current n = n := by
  rw [h.renames]
  rfl

theorem declaration? (h : r.MergesDifference) (s : Schema) (n : String)
    : r.declaration? s n = s.table? n := by
  have he : r.renames.earlier n = [] := by
    rw [h.renames]
    rfl
  rw [MergeRequest.declaration?, he, List.nil_append, List.findSome?_singleton]

/-- Nothing is created for a table that the base declares. -/
theorem not_creates (h : r.MergesDifference) {n : String} (hb : n ∈ r.base.tableNames)
    : ¬ r.Creates n := by
  intro hc
  have hk := hc.mem_keys
  rw [h.changes] at hk
  obtain ⟨fields, hk⟩ := mem_keys.mp hk
  obtain ⟨t, _, rfl, ha⟩ := Additions.mem_entries_additionsTo.mp hk
  exact Additions.addition?_newTables ha hb

/-- A table that the base lacks is emitted with the complete fields of its proposed declaration.
-/
theorem exists_table_of_new (h : r.MergesDifference) (done : r.merged = .ok m) {new : Table}
    (hp : r.proposal.table? new.name = some new) (absent : r.base.table? new.name = none)
    (visible : isBlankText new.name = false)
    (complete : ∃ f ∈ distinctFields new.fields, f.isIncomplete = false)
    : ∃ t, m.schema.table? new.name = some t ∧ ∀ x, x ∈ t.fieldNames
        ↔ ∃ f ∈ distinctFields new.fields, f.isIncomplete = false ∧ f.name = x := by
  have ha : Additions.addition? r.base new = some (.newTables, distinctFields new.fields) := by
    simp only [Additions.addition?, absent]
  have hg : r.changes.newTables.getD new.name [] = distinctFields new.fields := by
    rw [h.changes]
    exact Additions.getD_additionsTo hp ha
  have hc : r.Creates new.name := ⟨visible, hg ▸ complete⟩
  exact hg ▸ exists_table_of_creates done hc

/-- A base table that gains a field is emitted with the complete fields of its proposed
declaration: those that the base declares too, and those that it gains.
-/
theorem exists_table_of_extended (h : r.MergesDifference) (done : r.merged = .ok m)
    {old new : Table} (hb : r.base.table? old.name = some old)
    (hp : r.proposal.table? old.name = some new) (gains : fieldsBeyond old new ≠ [])
    (visible : isBlankText old.name = false)
    : ∃ t, m.schema.table? old.name = some t ∧ ∀ x, x ∈ t.fieldNames
        ↔ (∃ f ∈ new.fields, f.name ∈ old.fieldNames ∧ f.isIncomplete = false ∧ f.name = x)
          ∨ ∃ f ∈ fieldsBeyond old new, f.isIncomplete = false ∧ f.name = x := by
  have hn : new.name = old.name := (Schema.mem_of_table?_eq_some hp).2
  have declared : old.name ∈ r.base.tableNames :=
    List.mem_map_of_mem (Schema.mem_of_table?_eq_some hb).1
  have ha : Additions.addition? r.base new = some (.newFields, fieldsBeyond old new) := by
    simp only [Additions.addition?, hn, hb]
    cases hf : fieldsBeyond old new with
    | nil => exact absurd hf gains
    | cons f fs => rfl
  have hk : old.name ∈ r.changes.newFields.keys := by
    rw [h.changes, ← hn]
    exact mem_keys.mpr ⟨_, Additions.mem_entries_additionsTo.mpr
      ⟨new, Schema.mem_distinctTables.mpr (hn ▸ hp), rfl, ha⟩⟩
  have hg : r.changes.newFields.getD old.name [] = fieldsBeyond old new := by
    rw [h.changes, ← hn]
    exact Additions.getD_additionsTo (hn ▸ hp) ha
  obtain ⟨t, ht, hx⟩ := exists_table_of_extends done ⟨visible, hk⟩ (h.not_creates declared)
  refine ⟨t, ht, fun x => ?_⟩
  rw [hx, hg, earlierFields, h.declaration?, h.declaration?, hb, hp]
  simp only [List.mem_filter, Table.declares_iff, and_assoc]

/-- A base table that gains no field is emitted with all its fields. -/
theorem exists_table_of_kept (h : r.MergesDifference) (done : r.merged = .ok m) {old : Table}
    (hb : r.base.table? old.name = some old)
    (nothing : ∀ new, r.proposal.table? old.name = some new → fieldsBeyond old new = [])
    : ∃ t, m.schema.table? old.name = some t ∧ t.fieldNames = old.fieldNames := by
  have unchanged : old.name ∉ r.changes.tableNames := by
    intro hm
    obtain ⟨kind, hk⟩ := Additions.mem_tableNames.mp hm
    obtain ⟨fields, hk⟩ := mem_keys.mp hk
    have hk : (old.name, fields) ∈ (Additions.additionsTo r.base r.proposal kind).entries := by
      rw [h.changes] at hk
      cases kind <;> exact hk
    obtain ⟨new, hd, hn, ha⟩ := Additions.mem_entries_additionsTo.mp hk
    have hp := hn ▸ Schema.mem_distinctTables.mp hd
    rw [Additions.addition?_eq_none_iff.mpr
      ⟨old, hn ▸ hb, fieldsBeyond_eq_nil_iff.mp (nothing new hp)⟩] at ha
    cases ha
  have keeps : r.Keeps old.name := by
    refine ⟨(h.current old.name).symm ▸ unchanged, fun hv => ?_⟩
    rw [h.renames] at hv
    cases hv
  have apart : ∀ b ∈ r.base.tableNames,
      r.renames.current b = r.renames.current old.name → b = old.name := by
    intro b _ he
    rwa [h.current, h.current] at he
  exact h.current old.name ▸ exists_table_of_keeps done hb keeps apart

end MergesDifference

-----------------------------------------------------------------------------------------
-- What the base loses
-----------------------------------------------------------------------------------------

/-- A base of three tables. -/
def library : Schema where
  tables := [
    { name := "books"
      fields := [
        { name := "_id", type := "unique" },
        { name := "title", type := "text" },
        { name := "isbn", type := "text" }] },
    { name := "readers"
      fields := [{ name := "_id", type := "unique" }, { name := "name", type := "text" }] },
    { name := "loans"
      fields := [{ name := "book", type := "books" }, { name := "reader", type := "readers" }] }]

end MergeRequest
end SchemaMarkup
