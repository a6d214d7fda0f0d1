import SchemaMarkup.Proofs.Merge.MergedDifference
import SchemaMarkup.Proofs.Session.Commits

/-! Committing a proposal as it is. If all names and types of the proposal are visible and no
table is empty, the committed schema declares all its tables with all their fields, and a
session with the same proposal has nothing left to edit.
-/

namespace SchemaMarkup

open Text

/-- Whether everything that a schema declares can be written out: tables have names and fields,
and fields have names and types.
-/
structure Schema.Complete (s : Schema) : Prop where
  visible : ∀ t ∈ s.tables, isBlankText t.name = false
  nonempty : ∀ t ∈ s.tables, t.fields ≠ []
  complete : ∀ t ∈ s.tables, ∀ f ∈ t.fields, f.isIncomplete = false

instance (s : Schema) : Decidable s.Complete :=
  decidable_of_iff
    ((∀ t ∈ s.tables, isBlankText t.name = false) ∧ (∀ t ∈ s.tables, t.fields ≠ [])
      ∧ ∀ t ∈ s.tables, ∀ f ∈ t.fields, f.isIncomplete = false)
    ⟨fun h => ⟨h.1, h.2.1, h.2.2⟩, fun h => ⟨h.visible, h.nonempty, h.complete⟩⟩

/-- The merged schema declares a table of a complete proposal with all its fields, by the three
routes that the table may take.
-/
theorem MergeRequest.MergesDifference.declares_proposed {r : MergeRequest} {m : Merged}
    (h : r.MergesDifference) (done : r.merged = .ok m) (complete : r.proposal.Complete)
    {new : Table} (hp : r.proposal.table? new.name = some new)
    : ∃ t, m.schema.table? new.name = some t ∧ ∀ x ∈ new.fieldNames, x ∈ t.fieldNames := by
  have hm : new ∈ r.proposal.tables := (Schema.mem_of_table?_eq_some hp).1
  have visible := complete.visible new hm
  have distinct : ∀ f ∈ distinctFields new.fields, f.isIncomplete = false := fun f hf =>
    complete.complete new hm f (mem_of_mem_distinctBy hf)
  cases hb : r.base.table? new.name with
  | none =>
      obtain ⟨f, hf⟩ := List.exists_mem_of_ne_nil _ (complete.nonempty new hm)
      have hf := mem_names_distinctFields.mpr (List.mem_map_of_mem hf)
      obtain ⟨g, hg, _⟩ := List.mem_map.mp hf
      obtain ⟨t, ht, hx⟩ := h.exists_table_of_new done hp hb visible ⟨g, hg, distinct g hg⟩
      refine ⟨t, ht, fun x hx' => (hx x).mpr ?_⟩
      obtain ⟨f, hf, rfl⟩ := List.mem_map.mp (mem_names_distinctFields.mpr hx')
      exact ⟨f, hf, distinct f hf, rfl⟩
  | some old =>
      have hn : old.name = new.name := (Schema.mem_of_table?_eq_some hb).2
      rw [← hn] at hb hp visible ⊢
      by_cases hg : fieldsBeyond old new = []
      · have nothing : ∀ new', r.proposal.table? old.name = some new'
            → fieldsBeyond old new' = [] := by
          intro new' hp'
          rwa [← Option.some.inj (hp.symm.trans hp')]
        obtain ⟨t, ht, hf⟩ := h.exists_table_of_kept done hb nothing
        exact ⟨t, ht, hf ▸ fieldsBeyond_eq_nil_iff.mp hg⟩
      · obtain ⟨t, ht, hx⟩ := h.exists_table_of_extended done hb hp hg visible
        refine ⟨t, ht, fun x hx' => (hx x).mpr ?_⟩
        by_cases ho : x ∈ old.fieldNames
        · obtain ⟨f, hf, rfl⟩ := List.mem_map.mp hx'
          exact .inl ⟨f, hf, ho, complete.complete new hm f hf, rfl⟩
        · obtain ⟨f, hf, rfl⟩ := List.mem_map.mp (mem_names_fieldsBeyond.mpr ⟨hx', ho⟩)
          have hf' := (List.mem_filter.mp (mem_of_mem_distinctBy hf)).1
          exact .inr ⟨f, hf, complete.complete new hm f hf', rfl⟩

namespace Session

/-- Committing a session as it was opened on a complete proposal succeeds, the proposal adds
nothing to the schema that is committed, and a session that is opened on both has nothing
pending.
-/
theorem commit_absorbs_proposal (base proposal : Schema) (complete : proposal.Complete)
    : ∃ schema s', (start base proposal).commit = .ok (schema, s')
        ∧ Additions.between schema proposal = {}
        ∧ start schema proposal = { base := schema, proposal } := by
  obtain ⟨m, done⟩ := MergeRequest.exists_merged (r := (start base proposal).mergeRequest)
    Conventions.namesPrimitives_standard
  have difference : (start base proposal).mergeRequest.MergesDifference := ⟨rfl, rfl⟩
  have nothing : Additions.between m.schema proposal = {} := by
    refine Additions.between_eq_empty_iff.mpr fun new hm => ?_
    exact difference.declares_proposed done complete (Schema.mem_distinctTables.mp hm)
  refine ⟨m.schema, _, commit_of_merged done, nothing, ?_⟩
  rw [start, nothing]
  rfl

/-- A base that repeats a table and a field. -/
def market : Schema where
  tables := [
    { name := "stalls"
      fields := [
        { name := "_id", type := "unique" },
        { name := "_id", type := "text" },
        { name := "owner", type := "" }] },
    { name := "stalls", fields := [{ name := "rent", type := "money" }] },
    { name := "days", fields := [{ name := "date", type := "date" }] }]

/-- A complete proposal that repeats tables and fields of its own. -/
def marketProposal : Schema where
  tables := [
    { name := "goods"
      fields := [{ name := "stall_id", type := "int" }, { name := "stall_id", type := "stalls" }] },
    { name := "stalls"
      fields := [
        { name := "owner", type := "owners" },
        { name := "rent", type := "money" },
        { name := "rent", type := "text" }] },
    { name := "days", fields := [{ name := "date", type := "timestamp" }] },
    { name := "goods", fields := [{ name := "price", type := "decimal(8, 2)" }] }]
  refs := [⟨"goods", "stall_id", .manyToOne, "stalls", "_id"⟩]

/-- Nothing remains of such a proposal, in which the first declarations count. -/
theorem commit_absorbs_proposal_market
    : marketProposal.Complete
      ∧ ∃ schema s', (start market marketProposal).commit = .ok (schema, s')
        ∧ Additions.between schema marketProposal = {}
        ∧ start schema marketProposal = { base := schema, proposal := marketProposal } :=
  ⟨by decide +kernel, commit_absorbs_proposal _ _ (by decide +kernel)⟩

end Session
end SchemaMarkup
