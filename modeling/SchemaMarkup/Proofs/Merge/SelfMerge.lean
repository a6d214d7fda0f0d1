import SchemaMarkup.Proofs.Merge.Closed

/-! Merging a schema with itself. Without changes every table is kept, nothing is settled, and in
a closed schema no reference and no group member is added or dropped: what remains of the merge
is the renaming of tables.
-/

namespace SchemaMarkup

open OrderedMap

theorem listedFirst_nil (order : List String)
    : listedFirst [] order = [] := by
  simp [listedFirst]

section

variable {α β : Type}

theorem map_fst_pair_nil (xs : List α)
    : (xs.map fun x => (x, ([] : List β))).map Prod.fst = xs := by
  rw [List.map_map]
  exact List.map_id xs

theorem flatMap_snd_pair_nil (xs : List α)
    : (xs.map fun x => (x, ([] : List β))).flatMap Prod.snd = [] := by
  rw [List.flatMap_map, List.flatMap_eq_nil_iff]
  exact fun _ _ => rfl

end

/-- A draft without pending fields is settled as it is. -/
theorem Draft.resolve_of_not_pending {c : Conventions} {known : List String} {d : Draft}
    (h : d.pending = none)
    : d.resolve c known = .ok (d.table, []) := by
  have hf : (d.table.fields.mapM fun f =>
      if f.name ∈ d.pending.getD [] then f.resolve c known d.name else pure (f, []))
      = .ok (d.table.fields.map fun f => (f, [])) := by
    apply Outcome.mapM_eq_ok_map
    intro f _
    rw [h]
    exact if_neg List.not_mem_nil
  refine Outcome.bind_eq_ok.mpr ⟨_, hf, ?_⟩
  rw [map_fst_pair_nil, flatMap_snd_pair_nil]
  rfl

/-- A group of distinct available tables that no merge has touched is kept as it is, under
current table names.
-/
theorem TableGroup.rebuild_eq_rename {g : TableGroup} {available : List String} {m : Renames}
    (declared : ∀ e ∈ (g.rename m).members, e.table ∈ available)
    (distinct : ((g.rename m).members.map Member.table).Nodup)
    : g.rebuild available [] m = g.rename m := by
  have hs : g.survivors available m = (g.rename m).members := by
    have hm : g.members.map (fun e => { e with table := m.current e.table })
        = (g.rename m).members := rfl
    rw [survivors, hm, List.filter_eq_self.mpr (by simpa using declared),
      distinctBy_nil_eq_self distinct]
  rw [rebuild, hs]
  simp [TableGroup.rename]

/-- A group of available tables has no orphans. -/
theorem TableGroup.orphans_eq_nil {g : TableGroup} {available : List String} {m : Renames}
    (declared : ∀ e ∈ (g.rename m).members, e.table ∈ available)
    : g.orphans available m = [] := by
  rw [orphans, List.filterMap_eq_nil_iff]
  intro e he
  exact if_pos (declared _ (List.mem_map_of_mem he))

namespace MergeRequest

/-- If the references of a closed schema are those of the proposal, none of them is dropped and
none is added.
-/
theorem mergedRefs_of_closed {r : MergeRequest} {s : Schema} (closed : s.Closed r.conventions)
    (refs : r.renamedRefs = s.refs)
    : r.mergedRefs s.tables = s.refs := by
  have kept : distinctBy (Ref.relationship r.conventions) []
      (r.renamedRefs.filter fun ref => ref.isGrounded s.tables) = s.refs := by
    rw [refs, List.filter_eq_self.mpr closed.refsGrounded,
      distinctBy_nil_eq_self closed.refsDistinct]
  have added : refsOfTypes r.conventions s.tables s.refs = [] := by
    apply distinctBy_eq_nil
    intro ref hr
    obtain ⟨t, ht, f, hf, target, hm, hn, rfl⟩ :=
      (mem_impliedRefs_types closed.tablesDistinct).mp hr
    exact closed.typesCovered t ht f hf target hm hn
  simp only [mergedRefs, kept, added, List.append_nil]

/-- The request to merge a schema with itself under a record of renames, without changes. -/
def ofSelf (c : Conventions) (s : Schema) (m : Renames) (order : DisplayOrder) : MergeRequest where
  base := s
  proposal := s
  changes := {}
  renames := m
  order
  conventions := c

variable {c : Conventions} {s : Schema} {m : Renames} {order : DisplayOrder}

/-- The drafts are the tables of the schema under their current names. -/
theorem drafts_ofSelf (distinct : s.tableNames.Nodup) (fits : m.Fits s)
    : (ofSelf c s m order).drafts = s.tables.map fun t => { table := t.rename m } := by
  have created : (ofSelf c s m order).createdDrafts = [] := by
    have hl : listedFirst (ofSelf c s m order).changes.newTables.keys
        (ofSelf c s m order).order.newTables = [] :=
      listedFirst_nil _
    rw [createdDrafts, hl, List.filterMap_nil]
  have extended : (ofSelf c s m order).extendedDrafts [] = [] := by
    have hl : listedFirst (ofSelf c s m order).changes.newFields.keys
        (ofSelf c s m order).order.newFields = [] :=
      listedFirst_nil _
    rw [extendedDrafts, hl]
    rfl
  have kept : s.tables.filterMap (ofSelf c s m order).keptDraft?
      = s.tables.map fun t => { table := t.rename m } := by
    rw [← List.filterMap_eq_map]
    apply List.filterMap_congr
    intro t ht
    exact keptDraft?_eq_some_iff.mpr
      ⟨⟨List.not_mem_nil, fits.notReplaced t.name (List.mem_map_of_mem ht)⟩, rfl⟩
  have names
      : ((s.tables.map fun t => ({ table := t.rename m } : Draft)).map Draft.name).Nodup := by
    have hn : (s.tables.map fun t => ({ table := t.rename m } : Draft)).map Draft.name
        = s.tableNames.map m.current := by
      simp [Schema.tableNames, Draft.name, Table.rename]
    rw [hn]
    exact distinct.map_on fun a ha b hb => fits.injective a ha b hb
  have tables : (ofSelf c s m order).base.distinctTables = s.tables :=
    distinctBy_nil_eq_self distinct
  rw [drafts, created, extended, keptDrafts, tables, kept]
  exact distinctBy_nil_eq_self names

/-- No draft has pending fields, so that all are settled as they are. -/
theorem resolvedDrafts_ofSelf (distinct : s.tableNames.Nodup) (fits : m.Fits s)
    : (ofSelf c s m order).resolvedDrafts = .ok ((s.rename m).tables.map fun t => (t, [])) := by
  have hd : (ofSelf c s m order).drafts = s.tables.map fun t => { table := t.rename m } :=
    drafts_ofSelf distinct fits
  rw [resolvedDrafts, Outcome.mapM_eq_ok_map (g := fun d => (d.table, []))]
  · rw [hd, Schema.rename, List.map_map, List.map_map]
    rfl
  · intro d hm
    rw [hd] at hm
    obtain ⟨t, _, rfl⟩ := List.mem_map.mp hm
    exact Draft.resolve_of_not_pending rfl

/-- The schema made up is the one under current table names. -/
theorem schemaOf_ofSelf (closed : s.Closed c) (fits : m.Fits s)
    : (ofSelf c s m order).schemaOf (s.rename m).tables = s.rename m := by
  have closed' := closed.rename fits
  have touched : (ofSelf c s m order).touchedNames = [] := by
    rw [touchedNames, drafts_ofSelf closed.tablesDistinct fits]
    simp
  have refs : (ofSelf c s m order).mergedRefs (s.rename m).tables = (s.rename m).refs :=
    mergedRefs_of_closed closed' rfl
  have groups : (ofSelf c s m order).mergedGroups (s.rename m).tables [] = (s.rename m).groups := by
    apply List.map_congr_left
    intro g hg
    have hg := List.mem_map_of_mem (f := TableGroup.rename m) hg
    exact TableGroup.rebuild_eq_rename (closed'.membersDeclared _ hg) (closed'.membersDistinct _ hg)
  rw [schemaOf, touched, refs, groups]

/-- Merging a closed schema with itself renames its tables wherever they are mentioned, and does
so without a warning.
-/
theorem merged_ofSelf (closed : s.Closed c) (fits : m.Fits s)
    : (ofSelf c s m order).merged = .ok {
        schema := s.rename m
        text := Markup.withoutRepeats c (s.rename m).toText
        warnings := [] } := by
  have closed' := closed.rename fits
  have refWarnings : (ofSelf c s m order).refWarnings (s.rename m).tables = [] := by
    rw [MergeRequest.refWarnings, List.map_eq_nil_iff, List.filter_eq_nil_iff]
    intro ref hr
    simpa using closed'.refsGrounded ref hr
  have groupWarnings : (ofSelf c s m order).groupWarnings (s.rename m).tables = [] := by
    rw [MergeRequest.groupWarnings, List.flatMap_eq_nil_iff]
    intro g hg
    have hg := List.mem_map_of_mem (f := TableGroup.rename m) hg
    exact TableGroup.orphans_eq_nil (closed'.membersDeclared _ hg)
  rw [merged_of_resolvedDrafts (resolvedDrafts_ofSelf closed.tablesDistinct fits),
    map_fst_pair_nil, flatMap_snd_pair_nil, schemaOf_ofSelf closed fits, refWarnings,
    groupWarnings]
  rfl

/-- Merging what a merge has made with itself changes nothing: the result of a merge is closed. -/
theorem merged_ofSelf_merged {r : MergeRequest} {result : Merged} (h : r.merged = .ok result)
    (order : DisplayOrder)
    : (ofSelf r.conventions result.schema {} order).merged
      = .ok { result with warnings := [] } := by
  rw [merged_ofSelf (wellFormed_of_merged h).closed (Renames.fits_empty _), Schema.rename_empty,
    ← text_merged h]

end MergeRequest
end SchemaMarkup
