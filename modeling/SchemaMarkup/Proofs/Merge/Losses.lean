import SchemaMarkup.Proofs.Merge.WellFormed

/-! What a merge drops of the references and group members of a proposal. All that is dropped is
reported, in order, and all else is found in the merged schema exactly once: a reference by the
relationship that it states, and a member under the current name of its table.
-/

namespace SchemaMarkup

-----------------------------------------------------------------------------------------
-- Warnings told apart by what they say
-----------------------------------------------------------------------------------------

namespace MergeNotice

/-- Whether a warning says that a reference was dropped. -/
def tellsOfRef (n : MergeNotice) : Bool :=
  n.kind = "dangling_ref_dropped" && "Dropped ref ".toList.isPrefixOf n.message.toList

/-- Whether a warning says that a member of a group was dropped. -/
def tellsOfMember (n : MergeNotice) : Bool :=
  n.kind = "orphan_group_member_dropped"

/-- Whether a warning is about a field whose type was settled. -/
def isAboutField : MergeNotice → Bool
  | inlineRefDropped .. | typeAmbiguous .. => true
  | refDropped _ | memberDropped .. => false

theorem isPrefixOf_append (start rest : String)
    : start.toList.isPrefixOf (start ++ rest).toList = true := by
  rw [String.toList_append]
  exact List.isPrefixOf_iff_prefix.mpr (List.prefix_append _ _)

@[simp]
theorem tellsOfRef_refDropped (ref : Ref)
    : (refDropped ref).tellsOfRef = true := by
  have hm : (refDropped ref).message
      = "Dropped ref " ++ ref.sourceTable ++ "." ++ ref.sourceField ++ " "
        ++ String.singleton ref.cardinality.symbol ++ " " ++ ref.targetTable ++ "."
        ++ ref.targetField := rfl
  rw [tellsOfRef, hm]
  simp only [String.append_assoc, isPrefixOf_append]
  rfl

@[simp]
theorem tellsOfRef_memberDropped (table group : String)
    : (memberDropped table group).tellsOfRef = false := by
  simp [tellsOfRef, kind]

@[simp]
theorem tellsOfMember_refDropped (ref : Ref)
    : (refDropped ref).tellsOfMember = false := by
  simp [tellsOfMember, kind]

@[simp]
theorem tellsOfMember_memberDropped (table group : String)
    : (memberDropped table group).tellsOfMember = true := by
  simp [tellsOfMember, kind]

/-- A warning about an inline reference reads otherwise from its second word on. -/
theorem tellsOfRef_inlineRefDropped (table field target : String)
    : (inlineRefDropped table field target).tellsOfRef = false := by
  have hm : (inlineRefDropped table field target).message
      = "Dropped inline ref on " ++ table ++ "." ++ field ++ " to missing table " ++ target := rfl
  rw [tellsOfRef, hm, Bool.and_eq_false_iff]
  refine .inr (Bool.eq_false_iff.mpr fun h => ?_)
  simp only [String.append_assoc] at h
  have apart := List.prefix_of_prefix_length_le (List.isPrefixOf_iff_prefix.mp h)
    (List.isPrefixOf_iff_prefix.mp (isPrefixOf_append _ _)) (by decide)
  exact absurd apart (by decide)

theorem tellsOfRef_of_isAboutField {n : MergeNotice} (h : n.isAboutField = true)
    : n.tellsOfRef = false := by
  cases n with
  | inlineRefDropped => exact tellsOfRef_inlineRefDropped _ _ _
  | typeAmbiguous => simp [tellsOfRef, kind]
  | refDropped => cases h
  | memberDropped => cases h

theorem tellsOfMember_of_isAboutField {n : MergeNotice} (h : n.isAboutField = true)
    : n.tellsOfMember = false := by
  cases n with
  | inlineRefDropped => simp [tellsOfMember, kind]
  | typeAmbiguous => simp [tellsOfMember, kind]
  | refDropped => cases h
  | memberDropped => cases h

end MergeNotice

-----------------------------------------------------------------------------------------
-- The warnings of a merge
-----------------------------------------------------------------------------------------

/-- Settling a field warns about that field only. -/
theorem Field.isAboutField_of_resolve {c : Conventions} {known : List String} {table : String}
    {f : Field} {p : Field × List MergeNotice} (h : f.resolve c known table = .ok p)
    : ∀ n ∈ p.2, n.isAboutField = true := by
  have ground : ∀ n ∈ (f.ground known table).2, n.isAboutField = true := by
    rw [Field.ground]
    split
    · simp
    · split <;> simp [MergeNotice.isAboutField]
  have doubts (type : String) (g : Field)
      : ∀ n ∈ c.doubts table type g, n.isAboutField = true := by
    rw [Conventions.doubts]
    split <;> simp [MergeNotice.isAboutField]
  obtain ⟨type, _, h⟩ := Outcome.bind_eq_ok.mp h
  cases h
  intro n hn
  exact (List.mem_append.mp hn).elim (ground n) (doubts type _ n)

/-- Settling a draft warns about its fields only. -/
theorem Draft.isAboutField_of_resolve {c : Conventions} {known : List String} {d : Draft}
    {p : Table × List MergeNotice} (h : d.resolve c known = .ok p)
    : ∀ n ∈ p.2, n.isAboutField = true := by
  obtain ⟨fields, hf, h⟩ := Outcome.bind_eq_ok.mp h
  cases h
  intro n hn
  obtain ⟨q, hq, hn⟩ := List.mem_flatMap.mp hn
  obtain ⟨f, _, he⟩ := Outcome.exists_of_mem_mapM hf hq
  split at he
  · exact Field.isAboutField_of_resolve he n hn
  · cases he
    cases hn

namespace TableGroup

variable {g : TableGroup} {available touched : List String} {m : Renames}

/-- A group loses the members whose tables are not available, in order. -/
theorem orphans_eq
    : g.orphans available m
      = (g.members.filter fun e => m.current e.table ∉ available).map fun e =>
          .memberDropped e.table g.name := by
  rw [orphans]
  induction g.members with
  | nil => rfl
  | cons e es ih =>
      by_cases h : m.current e.table ∈ available
      · simp [h, ih]
      · simp [h, ih]

end TableGroup

namespace MergeRequest

variable {r : MergeRequest} {m : Merged}

/-- A merge warns about the fields it settles, then about references, then about groups. -/
theorem exists_warnings_merged (h : r.merged = .ok m)
    : ∃ settling, (∀ n ∈ settling, n.isAboutField = true)
        ∧ m.warnings
          = settling ++ r.refWarnings m.schema.tables ++ r.groupWarnings m.schema.tables := by
  obtain ⟨resolved, hr, hs⟩ := exists_resolved_of_merged h
  have hm := merged_of_resolvedDrafts hr
  rw [h] at hm
  refine ⟨resolved.flatMap Prod.snd, ?_, ?_⟩
  · intro n hn
    obtain ⟨p, hp, hn⟩ := List.mem_flatMap.mp hn
    obtain ⟨d, _, hd⟩ := Outcome.exists_of_mem_mapM hr hp
    exact Draft.isAboutField_of_resolve hd n hn
  · rw [hs, Except.ok.inj hm]
    rfl

theorem exists_ref_of_mem_refWarnings {tables : List Table} {n : MergeNotice}
    (h : n ∈ r.refWarnings tables)
    : ∃ ref, n = .refDropped ref := by
  obtain ⟨ref, _, rfl⟩ := List.mem_map.mp h
  exact ⟨ref, rfl⟩

theorem exists_member_of_mem_groupWarnings {tables : List Table} {n : MergeNotice}
    (h : n ∈ r.groupWarnings tables)
    : ∃ table group, n = .memberDropped table group := by
  obtain ⟨g, _, h⟩ := List.mem_flatMap.mp h
  rw [TableGroup.orphans_eq] at h
  obtain ⟨e, _, rfl⟩ := List.mem_map.mp h
  exact ⟨e.table, g.name, rfl⟩

/-- A kind of warnings that leaves out those about fields comes from references and groups. -/
theorem filter_warnings_merged (h : r.merged = .ok m) {p : MergeNotice → Bool}
    (unrelated : ∀ n : MergeNotice, n.isAboutField = true → p n = false)
    : m.warnings.filter p
      = (r.refWarnings m.schema.tables).filter p
        ++ (r.groupWarnings m.schema.tables).filter p := by
  obtain ⟨settling, hs, he⟩ := exists_warnings_merged h
  have ofFields : settling.filter p = [] :=
    List.filter_eq_nil_iff.mpr fun n hn => by simp [unrelated n (hs n hn)]
  rw [he, List.filter_append, List.filter_append, ofFields, List.nil_append]

/-- The warnings of a merge that tell of references are those about the references dropped. -/
theorem filter_tellsOfRef_warnings (h : r.merged = .ok m)
    : m.warnings.filter MergeNotice.tellsOfRef = r.refWarnings m.schema.tables := by
  rw [filter_warnings_merged h fun _ => MergeNotice.tellsOfRef_of_isAboutField,
    List.filter_eq_self.mpr ?_, List.filter_eq_nil_iff.mpr ?_, List.append_nil]
  · intro n hn
    obtain ⟨table, group, rfl⟩ := exists_member_of_mem_groupWarnings hn
    simp
  · intro n hn
    obtain ⟨ref, rfl⟩ := exists_ref_of_mem_refWarnings hn
    exact MergeNotice.tellsOfRef_refDropped ref

/-- The warnings of a merge that tell of members are those about the members dropped. -/
theorem filter_tellsOfMember_warnings (h : r.merged = .ok m)
    : m.warnings.filter MergeNotice.tellsOfMember = r.groupWarnings m.schema.tables := by
  rw [filter_warnings_merged h fun _ => MergeNotice.tellsOfMember_of_isAboutField,
    List.filter_eq_nil_iff.mpr ?_, List.filter_eq_self.mpr ?_, List.nil_append]
  · intro n hn
    obtain ⟨table, group, rfl⟩ := exists_member_of_mem_groupWarnings hn
    exact MergeNotice.tellsOfMember_memberDropped table group
  · intro n hn
    obtain ⟨ref, rfl⟩ := exists_ref_of_mem_refWarnings hn
    simp

end MergeRequest

-----------------------------------------------------------------------------------------
-- What is not dropped
-----------------------------------------------------------------------------------------

/-- Whether a schema has both tables of a reference and the field that it leads from. -/
def Schema.HasEnds (s : Schema) (ref : Ref) : Prop :=
  (∃ t ∈ s.tables, t.name = ref.sourceTable ∧ ref.sourceField ∈ t.fieldNames)
    ∧ ref.targetTable ∈ s.tableNames

instance (s : Schema) (ref : Ref) : Decidable (s.HasEnds ref) :=
  inferInstanceAs (Decidable (_ ∧ _))

theorem Schema.isGrounded_eq (s : Schema) (ref : Ref)
    : ref.isGrounded s.tables = decide (s.HasEnds ref) := by
  rw [Bool.eq_iff_iff, decide_eq_true_iff]
  exact Ref.isGrounded_iff

namespace TableGroup

variable {g : TableGroup} {available touched : List String} {m : Renames}

/-- A rebuilt group lists the available table of a member once, with the comment of the first
member that has this table.
-/
theorem filter_members_rebuild {e : Member} (he : e ∈ g.members)
    (ha : m.current e.table ∈ available)
    : ∃ first, g.members.find? (fun e' => m.current e'.table = m.current e.table) = some first
        ∧ (g.rebuild available touched m).members.filter (·.table = m.current e.table)
          = [⟨m.current e.table, first.comment⟩] := by
  have hs : (g.members.find? fun e' => m.current e'.table = m.current e.table).isSome := by
    rw [List.find?_isSome]
    exact ⟨e, he, by simp⟩
  obtain ⟨first, hf⟩ := Option.isSome_iff_exists.mp hs
  -- A member with this table is never left out for want of the table.
  have emitted (e' : Member)
      : (decide (m.current e'.table ∈ available) = true
          ∧ decide (m.current e'.table = m.current e.table) = true)
        ↔ m.current e'.table = m.current e.table := by
    simp only [decide_eq_true_eq, and_iff_right_iff_imp]
    exact fun hn => hn ▸ ha
  have kept : (⟨m.current e.table, first.comment⟩ : Member) ∈ g.survivors available m := by
    rw [survivors, mem_distinctBy, List.find?_filter, List.find?_map]
    simp only [Function.comp_def, emitted, hf, Option.map_some]
    have hn : m.current first.table = m.current e.table := by simpa using List.find?_some hf
    exact ⟨List.not_mem_nil, by rw [hn]⟩
  exact ⟨first, hf, filter_key_eq_singleton nodup_tables_rebuild (List.mem_append_left _ kept)⟩

end TableGroup

namespace MergeRequest

variable {r : MergeRequest} {m : Merged}

/-- Whether a merge accounts for all references and group members of its proposal: what is not
in the merged schema is reported, and all else is there once.
-/
structure Accounted (r : MergeRequest) (m : Merged) : Prop where
  /-- The references without their ends are reported, each time in order, under current names. -/
  refsReported
    : m.warnings.filter MergeNotice.tellsOfRef
      = (r.proposal.refs.filter fun ref => ¬ m.schema.HasEnds (ref.rename r.renames)).map
          fun ref => .refDropped (ref.rename r.renames)
  /-- The relationship of every other reference is stated once. -/
  refsKept
    : ∀ ref ∈ r.proposal.refs, m.schema.HasEnds (ref.rename r.renames) →
        (m.schema.refs.map (Ref.relationship r.conventions)).count
          ((ref.rename r.renames).relationship r.conventions) = 1
  /-- The members without their tables are reported, each time in order, group by group. -/
  membersReported
    : m.warnings.filter MergeNotice.tellsOfMember
      = r.proposal.groups.flatMap fun g =>
          (g.members.filter fun e => r.renames.current e.table ∉ m.schema.tableNames).map
            fun e => .memberDropped e.table g.name
  /-- The table of every other member is listed once in the group, with the comment of the first
  member that has this table.
  -/
  membersKept
    : List.Forall₂ (fun g g' => g'.name = g.name ∧ ∀ e ∈ g.members,
          r.renames.current e.table ∈ m.schema.tableNames →
            ∃ first,
              g.members.find? (fun e' => r.renames.current e'.table = r.renames.current e.table)
                = some first
              ∧ g'.members.filter (·.table = r.renames.current e.table)
                = [⟨r.renames.current e.table, first.comment⟩])
        r.proposal.groups m.schema.groups

/-- A reference whose ends are emitted has its relationship in the merged schema once: it is kept
unless an earlier one states the same, and no relationship is stated twice.
-/
theorem count_relationship_merged (h : r.merged = .ok m) {ref : Ref} (hr : ref ∈ r.renamedRefs)
    (ends : m.schema.HasEnds ref)
    : (m.schema.refs.map (Ref.relationship r.conventions)).count (ref.relationship r.conventions)
      = 1 := by
  refine List.count_eq_one_of_mem (wellFormed_of_merged h).refsDistinct ?_
  rw [refs_merged h, mergedRefs, List.map_append]
  refine List.mem_append_left _ (mem_map_distinctBy_nil.mpr (List.mem_map_of_mem ?_))
  exact List.mem_filter.mpr ⟨hr, by rw [Schema.isGrounded_eq, decide_eq_true ends]⟩

/-- A merge that succeeds accounts for all references and group members of its proposal. -/
theorem accounted_of_merged (h : r.merged = .ok m)
    : r.Accounted m := by
  have names : m.schema.tables.map Table.name = m.schema.tableNames := rfl
  refine {
    refsReported := ?_
    refsKept := fun ref hr => count_relationship_merged h (List.mem_map_of_mem hr)
    membersReported := ?_
    membersKept := ?_ }
  · rw [filter_tellsOfRef_warnings h, refWarnings, renamedRefs, List.filter_map, List.map_map]
    simp only [Function.comp_def, Schema.isGrounded_eq, decide_not]
  · rw [filter_tellsOfMember_warnings h, groupWarnings]
    simp only [TableGroup.orphans_eq, names]
  · rw [groups_merged h, mergedGroups, List.forall₂_map_right_iff, List.forall₂_same]
    exact fun g _ => ⟨rfl, fun e he ha => TableGroup.filter_members_rebuild he ha⟩

/-- Whatever is merged under the standard conventions, the merge succeeds, reports all references
and group members of the proposal that it drops, in order, and keeps the others once each.
-/
theorem merged_accounts_for_proposal (base proposal : Schema) (changes : Additions)
    (renames : Renames) (order : DisplayOrder)
    : let r : MergeRequest := { base, proposal, changes, renames, order }
      ∃ m, r.merged = .ok m ∧ r.Accounted m := by
  intro r
  obtain ⟨m, h⟩ := exists_merged (r := r) Conventions.namesPrimitives_standard
  exact ⟨m, h, accounted_of_merged h⟩

end MergeRequest
end SchemaMarkup
