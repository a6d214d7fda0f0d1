import SchemaMarkup.Proofs.Merge.Emission
import SchemaMarkup.Proofs.Session.CoherentHistories

/-! What editing does to the tables of the base. Merging emits each of them under its current
name unless it has taken back a name that it had given up and the changes do not extend it: the
record of renames then says that some table has taken its name, and it is left out.
-/

namespace SchemaMarkup

open OrderedMap Text

/-- A merged schema has no table with a blank name if the tables that may be kept have none. -/
theorem MergeRequest.visible_of_mem_merged {r : MergeRequest} {m : Merged}
    (h : r.merged = .ok m)
    (kept : ∀ b ∈ r.base.tableNames, isBlankText (r.renames.current b) = false)
    : ∀ n ∈ m.schema.tableNames, isBlankText n = false := by
  intro n hn
  rcases (mem_tableNames_merged h).mp hn with hc | he | ⟨b, hb, _, rfl⟩
  · exact hc.1
  · exact he.1
  · exact kept b hb

namespace Session

/-- No base table has a blank name, and none is given one. -/
structure Visible (s : Session) : Prop where
  base : ∀ n ∈ s.base.tableNames, isBlankText n = false
  renames : ∀ n ∈ s.renames.values, isBlankText n = false

/-- The current name of a base table is not blank. -/
theorem Visible.current {s : Session} (h : s.Visible) {b : String} (hb : b ∈ s.base.tableNames)
    : isBlankText (s.renames.current b) = false := by
  rcases s.renames.current_eq_or_mem_values b with hc | hv
  · rw [hc]
    exact h.base b hb
  · exact h.renames _ hv

/-- Recording a rename to a visible name keeps names visible. -/
theorem Visible.renamed {s s' : Session} (h : s.Visible) {old new : String}
    (base : s'.base = s.base) (renames : s'.renames = recordRename s.renames old new)
    (visible : isBlankText new = false)
    : s'.Visible := by
  refine ⟨base ▸ h.base, ?_⟩
  intro n hn
  rw [renames] at hn
  rcases mem_values_of_mem_values_recordRename hn with rfl | ⟨_, hv⟩
  · exact visible
  · exact h.renames n hv

/-- Every edit keeps names visible, effect by effect: only renames record names, and a commit
takes over the names that are emitted.
-/
theorem Visible.step {s s' : Session} (h : s.Visible) (step : s.Step s')
    : s'.Visible := by
  cases step.effect with
  | unchanged => exact h
  | entryRenamed kind old new present proper visible free => exact h.renamed rfl rfl visible
  | baseRenamed old new absent present proper visible free => exact h.renamed rfl rfl visible
  | tableAdded name free => exact ⟨h.base, h.renames⟩
  | tableRemoved kind table present => exact ⟨h.base, h.renames⟩
  | fieldsReplaced kind table fields present nonempty => exact ⟨h.base, h.renames⟩
  | committed result done =>
      refine ⟨MergeRequest.visible_of_mem_merged done fun b hb => h.current hb, ?_⟩
      exact fun n hn => absurd hn List.not_mem_nil

/-- In a coherent session a base table is emitted under its current name exactly if no rename
leads to its name, or the changes extend the table of that name. It cannot be mistaken for a
created table or for another base table, and if a rename leads to its name, it has that name.
-/
theorem Coherent.emitted_iff {s : Session} (h : s.Coherent) (visible : s.Visible)
    {m : Merged} (done : s.merged = .ok m) {b : String} (hb : b ∈ s.base.tableNames)
    : s.renames.current b ∈ m.schema.tableNames
      ↔ b ∉ s.renames.values ∨ b ∈ s.changes.newFields.keys := by
  have live : s.renames.current b ∈ s.baseNames := mem_baseNames.mpr ⟨b, hb, rfl⟩
  have notNew : s.renames.current b ∉ s.changes.newTables.keys := fun hn =>
    h.newTablesNotBase _ hn live
  have taken (hv : b ∈ s.renames.values) : s.renames.current b = b :=
    Renames.current_of_notMem (h.renamesFlat b hv)
  have changed : s.renames.current b ∈ s.changes.tableNames
      ↔ s.renames.current b ∈ s.changes.newFields.keys := by
    rw [Additions.mem_tableNames]
    constructor
    · intro h
      obtain ⟨kind, hk⟩ := h
      cases kind with
      | newTables => exact absurd hk notNew
      | newFields => exact hk
    · exact fun hk => ⟨.newFields, hk⟩
  rw [MergeRequest.mem_tableNames_merged done]
  constructor
  · intro h
    rcases h with hc | he | ⟨b', hb', hk, heq⟩
    · exact absurd hc.mem_keys notNew
    · refine or_iff_not_imp_left.mpr fun hv => ?_
      exact taken (not_not.mp hv) ▸ he.2
    · obtain rfl := h.currentInjective b' hb' b hb heq
      exact .inl fun hv => h.renamesFlat b' hv (hk.2 hv)
  · intro hor
    by_cases hn : s.renames.current b ∈ s.changes.newFields.keys
    · exact .inr (.inl ⟨visible.current hb, hn⟩)
    · refine .inr (.inr ⟨b, hb, ⟨fun hm => hn (changed.mp hm), ?_⟩, rfl⟩)
      intro hv
      rcases hor with hor | hor
      · exact absurd hv hor
      · exact absurd ((taken hv).symm ▸ hor) hn

end Session

namespace Workspace

/-- After every history on a base without blank table names the session is coherent and no base
table has a blank name.
-/
theorem coherent_visible_after_history (base proposal : Schema) (ops : List Operation)
    (named : ∀ n ∈ base.tableNames, isBlankText n = false)
    : ((opened base proposal).performAll ops).session.Coherent
      ∧ ((opened base proposal).performAll ops).session.Visible := by
  have start : (Session.start base proposal).Visible :=
    ⟨named, fun n hn => absurd hn List.not_mem_nil⟩
  exact holds_after_history
    (P := fun s => s.Coherent ∧ s.Visible) ⟨Session.coherent_start base proposal, start⟩
    (fun _ _ h step => ⟨h.1.step step, h.2.step step⟩) ops

/-- After every history on a base without blank table names the changes can be merged, and a
base table is emitted under its current name exactly if no recorded rename leads to its name or
the changes extend it. By induction on the history.
-/
theorem base_table_emitted_iff (base proposal : Schema) (ops : List Operation)
    (named : ∀ n ∈ base.tableNames, isBlankText n = false)
    : let s := ((opened base proposal).performAll ops).session
      ∃ m, s.merged = .ok m ∧
        ∀ n ∈ s.base.tableNames,
          (s.renames.current n ∈ m.schema.tableNames
            ↔ n ∉ s.renames.values ∨ n ∈ s.changes.newFields.keys) := by
  intro s
  obtain ⟨coherent, visible⟩ := coherent_visible_after_history base proposal ops named
  obtain ⟨m, done⟩ := MergeRequest.exists_merged (r := s.mergeRequest)
    Conventions.namesPrimitives_standard
  exact ⟨m, done, fun n hn => coherent.emitted_iff visible done hn⟩

/-- Two base tables for a history in which one of them takes its name back. -/
def usersAndOrders : Schema where
  tables := [
    { name := "users", fields := [{ name := "_id", type := "unique" }] },
    { name := "orders", fields := [{ name := "_id", type := "unique" }] }]

/-- A history in which a base table gets another name and then its own one again. -/
def takingNameBack : List Operation :=
  [.rename "users" "accounts" none, .rename "accounts" "users" none]

/-- The condition at a base table that takes its name back, beside one that is left alone. -/
theorem base_table_emitted_iff_taking_back
    : (∀ n ∈ usersAndOrders.tableNames, isBlankText n = false)
      ∧ let s := ((opened usersAndOrders usersAndOrders).performAll takingNameBack).session
        ∃ m, s.merged = .ok m ∧
          ∀ n ∈ s.base.tableNames,
            (s.renames.current n ∈ m.schema.tableNames
              ↔ n ∉ s.renames.values ∨ n ∈ s.changes.newFields.keys) :=
  ⟨by decide +kernel, base_table_emitted_iff _ _ _ (by decide +kernel)⟩

/-- A base table that takes its name back is not emitted, although it has a visible name and
nothing was refused.
-/
theorem base_table_lost_taking_back
    : let s := ((opened usersAndOrders usersAndOrders).performAll takingNameBack).session
      (∀ n ∈ usersAndOrders.tableNames, isBlankText n = false)
        ∧ "users" ∈ s.base.tableNames
        ∧ s.renames.current "users" = "users"
        ∧ s.merged.toOption.map (·.schema.tableNames) = some ["orders"] := by
  decide +kernel

end Workspace
end SchemaMarkup
