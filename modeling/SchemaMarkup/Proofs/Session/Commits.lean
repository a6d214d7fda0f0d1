import SchemaMarkup.Proofs.Merge.SelfMerge

/-! Committing a merge settles a session: there is nothing left to merge. -/

namespace SchemaMarkup.Session

/-- Committing a merge answers the merged schema and starts over from it. -/
theorem commit_of_merged {s : Session} {m : Merged} (done : s.merged = .ok m)
    : s.commit = .ok (m.schema, { base := m.schema, proposal := m.schema }) :=
  Outcome.bind_eq_ok.mpr ⟨m, done, rfl⟩

/-- Committing the merge of a session answers the merged schema and leaves a session whose merge
gives the same schema and the same text, without any warning. So does merging with itself, without
changes and renames, whatever schema a merge has made. The merged schema is closed, and merging
adds nothing to a closed schema and takes nothing from it.
-/
theorem commit_reaches_fixpoint
    : (∀ s : Session, ∃ m s', s.merged = .ok m ∧ s.commit = .ok (m.schema, s')
        ∧ s'.merged = .ok { m with warnings := [] })
      ∧ ∀ (base proposal : Schema) (changes : Additions) (renames : Renames)
          (order : DisplayOrder), ∃ m,
          ({ base, proposal, changes, renames, order } : MergeRequest).merged = .ok m
          ∧ ({ base := m.schema, proposal := m.schema, changes := {} } : MergeRequest).merged
            = .ok { m with warnings := [] } := by
  constructor
  · intro s
    obtain ⟨m, done⟩ := MergeRequest.exists_merged (r := s.mergeRequest)
      Conventions.namesPrimitives_standard
    exact ⟨m, _, done, commit_of_merged done, MergeRequest.merged_ofSelf_merged done {}⟩
  · intro base proposal changes renames order
    obtain ⟨m, done⟩ := MergeRequest.exists_merged
      (r := { base, proposal, changes, renames, order }) Conventions.namesPrimitives_standard
    exact ⟨m, done, MergeRequest.merged_ofSelf_merged done {}⟩

end SchemaMarkup.Session
