import SchemaMarkup.Merge.Basic
import SchemaMarkup.Proofs.Merge.Drafts
import SchemaMarkup.Proofs.Merge.Resolution

/-! What a merge emits. It always succeeds, each draft becomes one table, and therefore the
table names of the merged schema are the names of the drafts.
-/

namespace SchemaMarkup

/-- A schema is valid exactly if its table names are distinct, since a name that is declared
twice would be counted twice.
-/
theorem Schema.validate_eq_ok_iff {s s' : Schema}
    : s.validate = .ok s' ↔ s' = s ∧ s.tableNames.Nodup := by
  have hr : s.repeatedNames.isEmpty = true ↔ s.tableNames.Nodup := by
    rw [List.isEmpty_iff, repeatedNames, List.filter_eq_nil_iff, List.nodup_iff_count_le_one]
    constructor
    · intro h n
      by_cases hn : n ∈ s.tableNames
      · simpa using h n (List.mem_eraseDups.mpr hn)
      · rw [List.count_eq_zero_of_not_mem hn]
        exact Nat.zero_le 1
    · intro h n _
      simpa using h n
  rw [validate]
  split
  · rename_i he
    simp [hr.mp he, eq_comm]
  · rename_i he
    have hn : ¬ s.tableNames.Nodup := fun h => he (hr.mpr h)
    simp [hn]

namespace MergeRequest

variable {r : MergeRequest}

/-- The names under which the drafts of a merge are emitted. -/
def emittedNames (r : MergeRequest) : List String :=
  r.drafts.map Draft.name

/-- The names of the drafts that come from the changes. -/
def touchedNames (r : MergeRequest) : List String :=
  (r.drafts.filter (·.pending.isSome)).map Draft.name

/-- The drafts that come from the changes are those whose names are among the changes. -/
theorem mem_touchedNames {n : String}
    : n ∈ r.touchedNames ↔ n ∈ r.emittedNames ∧ n ∈ r.changes.tableNames := by
  simp only [touchedNames, emittedNames, List.mem_map, List.mem_filter]
  constructor
  · intro h
    obtain ⟨d, ⟨hd, hp⟩, rfl⟩ := h
    refine ⟨⟨d, hd, rfl⟩, ?_⟩
    rcases changed_or_kept hd with h | h
    · exact h.mem_tableNames
    · rw [h.notPending] at hp
      cases hp
  · intro h
    obtain ⟨⟨d, hd, rfl⟩, hm⟩ := h
    refine ⟨d, ⟨hd, ?_⟩, rfl⟩
    rcases changed_or_kept hd with h | h
    · exact h.isPending
    · exact absurd hm h.notMem_tableNames

/-- The settled drafts of a merge, each with its warnings. -/
def resolvedDrafts (r : MergeRequest) : Except Error (List (Table × List MergeNotice)) :=
  r.drafts.mapM (Draft.resolve r.conventions r.emittedNames)

/-- The schema that settled drafts make up. -/
def schemaOf (r : MergeRequest) (tables : List Table) : Schema where
  tables
  refs := r.mergedRefs tables
  groups := r.mergedGroups tables r.touchedNames

/-- A merge that succeeds has settled its drafts and assembled the schema from them. -/
theorem exists_resolved_of_merged {m : Merged} (h : r.merged = .ok m)
    : ∃ resolved, r.resolvedDrafts = .ok resolved
        ∧ m.schema = r.schemaOf (resolved.map Prod.fst) := by
  obtain ⟨resolved, hd, h⟩ := Outcome.bind_eq_ok.mp h
  obtain ⟨s, hs, h⟩ := Outcome.bind_eq_ok.mp h
  cases h
  exact ⟨resolved, hd, (Schema.validate_eq_ok_iff.mp hs).1⟩

/-- The references of a merged schema are those kept and added for its tables. -/
theorem refs_merged {m : Merged} (h : r.merged = .ok m)
    : m.schema.refs = r.mergedRefs m.schema.tables := by
  obtain ⟨resolved, _, hs⟩ := exists_resolved_of_merged h
  rw [hs, schemaOf]

/-- The groups of a merged schema are those of the proposal, rebuilt for its tables. -/
theorem groups_merged {m : Merged} (h : r.merged = .ok m)
    : m.schema.groups = r.mergedGroups m.schema.tables r.touchedNames := by
  obtain ⟨resolved, _, hs⟩ := exists_resolved_of_merged h
  rw [hs, schemaOf]

theorem map_name_of_resolvedDrafts {resolved : List (Table × List MergeNotice)}
    (h : r.resolvedDrafts = .ok resolved)
    : (resolved.map Prod.fst).map Table.name = r.emittedNames := by
  rw [List.map_map]
  exact Outcome.map_eq_of_mapM_eq_ok (fun d p hp => (Draft.resolved_of_resolve hp).name_eq) h

/-- The merged schema declares the tables under which drafts are emitted, in order. -/
theorem tableNames_merged {m : Merged} (h : r.merged = .ok m)
    : m.schema.tableNames = r.emittedNames := by
  obtain ⟨resolved, hd, hs⟩ := exists_resolved_of_merged h
  rw [hs]
  exact map_name_of_resolvedDrafts hd

/-- Every table of a merged schema is a settled draft. -/
theorem exists_draft_of_mem_merged {m : Merged} (h : r.merged = .ok m) {t : Table}
    (ht : t ∈ m.schema.tables)
    : ∃ d ∈ r.drafts, d.Resolved m.schema.tableNames t := by
  rw [tableNames_merged h]
  obtain ⟨resolved, hd, hs⟩ := exists_resolved_of_merged h
  rw [hs] at ht
  obtain ⟨p, hp, rfl⟩ := List.mem_map.mp ht
  obtain ⟨d, hm, he⟩ := Outcome.exists_of_mem_mapM hd hp
  exact ⟨d, hm, Draft.resolved_of_resolve he⟩

/-- What a merge answers once its drafts are settled. -/
theorem merged_of_resolvedDrafts {resolved : List (Table × List MergeNotice)}
    (h : r.resolvedDrafts = .ok resolved)
    : let tables := resolved.map Prod.fst
      r.merged = .ok {
        schema := r.schemaOf tables
        text := Markup.withoutRepeats r.conventions (r.schemaOf tables).toText
        warnings := resolved.flatMap Prod.snd ++ r.refWarnings tables
          ++ r.groupWarnings tables } := by
  have hn : (r.schemaOf (resolved.map Prod.fst)).tableNames.Nodup := by
    rw [Schema.tableNames, schemaOf, map_name_of_resolvedDrafts h]
    exact nodup_names_drafts r
  refine Outcome.bind_eq_ok.mpr ⟨resolved, h, ?_⟩
  exact Outcome.bind_eq_ok.mpr ⟨_, Schema.validate_eq_ok_iff.mpr ⟨rfl, hn⟩, rfl⟩

/-- A merge succeeds under families that are named after primitive types: all drafts can be
settled, and their names are distinct.
-/
theorem exists_merged (hc : r.conventions.NamesPrimitives)
    : ∃ m, r.merged = .ok m := by
  obtain ⟨resolved, hd⟩ : ∃ resolved, r.resolvedDrafts = .ok resolved :=
    Outcome.exists_mapM_eq_ok fun d _ => Draft.resolve_ok hc r.emittedNames d
  exact ⟨_, merged_of_resolvedDrafts hd⟩

/-- The text of a merge is that of the merged schema without repeated lines. -/
theorem text_merged {m : Merged} (h : r.merged = .ok m)
    : m.text = Markup.withoutRepeats r.conventions m.schema.toText := by
  obtain ⟨resolved, hr, _⟩ := exists_resolved_of_merged h
  rw [merged_of_resolvedDrafts hr] at h
  obtain rfl := Except.ok.inj h
  rfl

/-- A merged schema declares the tables that changes create or extend and the base tables that
are kept, under their current names.
-/
theorem mem_tableNames_merged {m : Merged} (h : r.merged = .ok m) {n : String}
    : n ∈ m.schema.tableNames
      ↔ r.Creates n ∨ r.Extends n
        ∨ ∃ b ∈ r.base.tableNames, r.Keeps b ∧ r.renames.current b = n := by
  rw [tableNames_merged h]
  exact mem_names_drafts

end MergeRequest
end SchemaMarkup
