import SchemaMarkup.Proofs.Merge.Mentions
import SchemaMarkup.Proofs.Session.CoherentHistories

/-! Names that were given up. After any history of edits the merged schema mentions no name that
a table had before it was renamed, neither as a table nor in a field, a reference or a group.
-/

namespace SchemaMarkup

/-- Tables are emitted under live names only. -/
theorem Session.mem_liveNames_of_mem_merged {s : Session} {m : Merged} (done : s.merged = .ok m)
    {n : String} (hn : n ∈ m.schema.tableNames)
    : n ∈ s.liveNames := by
  rw [liveNames, List.mem_append]
  rcases (MergeRequest.mem_tableNames_merged done).mp hn with hc | he | ⟨b, hb, _, rfl⟩
  · exact .inr hc.mem_tableNames
  · exact .inr he.mem_tableNames
  · exact .inl (mem_baseNames.mpr ⟨b, hb, rfl⟩)

namespace Workspace

/-- After every history the changes can be merged, and the merged schema mentions no name that
was given up, provided that none of them is that of a primitive type: fields whose types are
inferred may get such a type, whatever tables there are. The record of renames is flat and no
name in it is live, by coherence.
-/
theorem given_up_names_not_mentioned (base proposal : Schema) (ops : List Operation)
    (notPrimitive
      : ∀ k ∈ ((opened base proposal).performAll ops).session.renames.keys,
          isPrimitiveName k = false)
    : let s := ((opened base proposal).performAll ops).session
      ∃ m, s.merged = .ok m ∧ ∀ k ∈ s.renames.keys, ¬ m.schema.Mentions k := by
  intro s
  have coherent : s.Coherent :=
    holds_after_history (Session.coherent_start base proposal) (fun _ _ h step => h.step step) ops
  obtain ⟨m, done⟩ := MergeRequest.exists_merged (r := s.mergeRequest)
    Conventions.namesPrimitives_standard
  have unemitted : ∀ k ∈ s.renames.keys, k ∉ m.schema.tableNames := fun k hk hn =>
    coherent.givenUpNotLive k hk (Session.mem_liveNames_of_mem_merged done hn)
  refine ⟨m, done, ?_⟩
  intro k hk
  exact MergeRequest.not_mentions_of_merged done coherent.renamesFlat unemitted notPrimitive hk

/-- A schema that mentions one of its tables in all places where it can. -/
def usersWithOrders : Schema where
  tables := [
    { name := "users", fields := [{ name := "_id", type := "unique" }] },
    { name := "orders",
      fields := [{ name := "buyer", type := "users", constraints := ["ref: > users._id"] }] }]
  refs := [⟨"orders", "buyer", .manyToOne, "users", "_id"⟩]
  groups := [{ name := "shop", members := [⟨"users", none⟩, ⟨"orders", none⟩] }]

/-- A history in which that table is renamed twice. -/
def renamingTwice : List Operation :=
  [.rename "users" "people" none, .rename "people" "customers" none]

/-- Both names that the table had are gone. -/
theorem given_up_names_not_mentioned_twice
    : let s := ((opened usersWithOrders usersWithOrders).performAll renamingTwice).session
      s.renames.keys = ["users", "people"]
        ∧ (∀ k ∈ s.renames.keys, isPrimitiveName k = false)
        ∧ ∃ m, s.merged = .ok m ∧ ∀ k ∈ s.renames.keys, ¬ m.schema.Mentions k :=
  ⟨by decide +kernel, by decide +kernel, given_up_names_not_mentioned _ _ _ (by decide +kernel)⟩

end Workspace
end SchemaMarkup
