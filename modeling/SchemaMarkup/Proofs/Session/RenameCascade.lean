import SchemaMarkup.Proofs.Merge.SelfMerge
import SchemaMarkup.Proofs.Session.CoherentHistories

/-! Renaming one table of a settled schema. Merging then puts the new name in place of the old one
wherever the table is mentioned, and changes nothing else.
-/

namespace SchemaMarkup

open OrderedMap Session

/-- The record of a single rename. -/
def Renames.single (old new : String) : Renames :=
  .ofList [(old, new)]

/-- The schema with a new table name in place of an old one: as the name of a table, as the type
of a field, in an inline reference, at either end of a reference and in a group.
-/
def Schema.substitute (old new : String) (s : Schema) : Schema where
  tables := s.tables.map fun t => { t with
    name := afterRename old new t.name
    fields := t.fields.map fun f => { f with
      type := afterRename old new f.type
      constraints := f.constraints.map (renameConstraint (.single old new)) } }
  refs := s.refs.map fun r => { r with
    sourceTable := afterRename old new r.sourceTable
    targetTable := afterRename old new r.targetTable }
  groups := s.groups.map fun g => { g with
    members := g.members.map fun e => { e with table := afterRename old new e.table } }

/-- Whether merging a schema with itself, without changes, gives the schema again. -/
def Schema.IsSettled (s : Schema) : Prop :=
  ({ base := s, proposal := s, changes := {} } : MergeRequest).merged.map Merged.schema = .ok s

instance (s : Schema) : Decidable s.IsSettled :=
  inferInstanceAs (Decidable (_ = _))

/-- A settled schema is closed, being the result of a merge. -/
theorem Schema.IsSettled.closed {s : Schema} (h : s.IsSettled)
    : s.Closed .standard := by
  rw [IsSettled] at h
  cases hm : ({ base := s, proposal := s, changes := {} } : MergeRequest).merged with
  | error e =>
      rw [hm] at h
      cases h
  | ok m =>
      rw [hm] at h
      have hs : m.schema = s := Except.ok.inj h
      exact hs ▸ (MergeRequest.wellFormed_of_merged hm).closed

namespace Session

variable {s : Schema} {old new : String}

theorem recordRename_empty (proper : new ≠ old)
    : recordRename {} old new = .single old new := by
  have hf : [(old, new)].filter (fun e => decide (e.1 ≠ e.2)) = [(old, new)] :=
    List.filter_eq_self.mpr (by simpa using proper.symm)
  exact eq_of_entries hf

theorem current_single (proper : new ≠ old) (n : String)
    : (Renames.single old new).current n = afterRename old new n := by
  rw [← recordRename_empty proper, current_recordRename new List.not_mem_nil,
    Renames.current_of_notMem List.not_mem_nil]

/-- Renaming by a single entry is substitution. -/
theorem rename_single (proper : new ≠ old)
    : s.rename (.single old new) = s.substitute old new := by
  have current := funext (current_single proper)
  unfold Schema.rename Table.rename Field.rename Ref.rename TableGroup.rename Member.rename
  simp only [current]
  rfl

/-- A name that neither a table nor a field type has is apart from all that a schema says. -/
theorem fits_single (proper : new ≠ old) (free : new ∉ s.tableNames)
    (untyped : ∀ t ∈ s.tables, ∀ f ∈ t.fields, f.type ≠ new)
    : (Renames.single old new).Fits s := by
  have apart {n : String} (hn : n ∈ s.tableNames) : n ≠ new := fun he => free (he ▸ hn)
  refine { injective := ?_, notReplaced := ?_, typesApart := ?_ }
  · intro a ha b hb h
    rw [current_single proper, current_single proper] at h
    exact afterRename_injOn (apart ha) (apart hb) h
  · intro n hn hv
    exact absurd (List.mem_singleton.mp hv) (apart hn)
  · intro t ht f hf h
    obtain ⟨n, hn, he⟩ := List.mem_map.mp h
    rw [current_single proper, current_single proper] at he
    exact afterRename_injOn (apart hn) (untyped t ht f hf) he ▸ hn

/-- A session on one schema starts without changes. -/
theorem start_self (distinct : s.tableNames.Nodup)
    : start s s = { base := s, proposal := s } := by
  rw [start, Additions.between_self distinct]
  rfl

/-- A table of a session without changes can take every name that no table has. -/
theorem rename_settled (known : old ∈ s.tableNames) (nonempty : new ≠ "")
    (trimmed : Text.trimmed new = new) (free : new ∉ s.tableNames)
    : ({ base := s, proposal := s } : Session).rename old new none
      = .ok { base := s, proposal := s, renames := recordRename {} old new } := by
  have proper : new ≠ old := fun he => free (he ▸ known)
  have names : ({ base := s, proposal := s } : Session).baseNames = s.tableNames := by
    have current : Renames.current {} = id :=
      funext fun n => Renames.current_of_notMem List.not_mem_nil
    rw [baseNames, current, List.map_id]
  have unreserved : new ∉ ({ base := s, proposal := s } : Session).reservedNames (some old) := by
    refine notMem_reservedNames.mpr ⟨?_, fun v hv => absurd hv List.not_mem_nil⟩
    rw [mem_liveNames, names, not_or]
    refine ⟨free, ?_⟩
    rintro ⟨kind, hk⟩
    cases kind <;> exact List.not_mem_nil hk
  rw [rename_eq, trimmed, if_neg nonempty, if_neg proper, if_neg (by simp [names, known]),
    if_neg unreserved]
  rfl

/-- Renaming a table of a settled schema to a name that no table and no field type of it has, and
merging, substitutes the new name for the old one and gives no warning. The schema is closed and
the single rename keeps apart what it tells apart.
-/
theorem rename_cascades (settled : s.IsSettled) (known : old ∈ s.tableNames)
    (nonempty : new ≠ "") (trimmed : Text.trimmed new = new) (free : new ∉ s.tableNames)
    (untyped : ∀ t ∈ s.tables, ∀ f ∈ t.fields, f.type ≠ new)
    : ∃ s' m, (start s s).rename old new none = .ok s' ∧ s'.merged = .ok m
        ∧ m.schema = s.substitute old new ∧ m.warnings = [] := by
  have closed := settled.closed
  have proper : new ≠ old := fun he => free (he ▸ known)
  rw [start_self closed.tablesDistinct, rename_settled known nonempty trimmed free,
    recordRename_empty proper]
  exact ⟨_, _, rfl, MergeRequest.merged_ofSelf closed (fits_single proper free untyped),
    rename_single proper, rfl⟩

/-- A settled schema in which one table is mentioned in every way, by itself and by another. -/
def staff : Schema where
  tables := [
    { name := "users"
      fields := [
        { name := "_id", type := "unique" },
        { name := "manager", type := "users", note := some "nobody for the head" }] },
    { name := "orders"
      fields := [
        { name := "_id", type := "unique" },
        { name := "buyer", type := "users", constraints := ["not null", "REF: > \"users\"._id"] }]
      note := some "since 2020" }]
  refs := [⟨"users", "_id", .oneToMany, "orders", "buyer"⟩,
    ⟨"users", "manager", .manyToOne, "users", "_id"⟩]
  groups := [
    { name := "shop"
      members := [⟨"orders", none⟩, ⟨"users", some "also staff"⟩]
      color := some "#a1b2c3" }]

/-- The new name may be one that has to be quoted. -/
theorem rename_cascades_quoted
    : staff.IsSettled ∧ "users" ∈ staff.tableNames
        ∧ Text.trimmed "app users" = "app users" ∧ "app users" ∉ staff.tableNames
        ∧ (∀ t ∈ staff.tables, ∀ f ∈ t.fields, f.type ≠ "app users")
        ∧ ∃ s' m, (start staff staff).rename "users" "app users" none = .ok s'
            ∧ s'.merged = .ok m ∧ m.schema = staff.substitute "users" "app users"
            ∧ m.warnings = [] :=
  have settled : staff.IsSettled := by decide +kernel
  have known : "users" ∈ staff.tableNames := by decide +kernel
  have trimmed : Text.trimmed "app users" = "app users" := by decide +kernel
  have free : "app users" ∉ staff.tableNames := by decide +kernel
  have untyped : ∀ t ∈ staff.tables, ∀ f ∈ t.fields, f.type ≠ "app users" := by decide +kernel
  ⟨settled, known, trimmed, free, untyped,
    rename_cascades settled known (by decide) trimmed free untyped⟩

end Session
end SchemaMarkup
