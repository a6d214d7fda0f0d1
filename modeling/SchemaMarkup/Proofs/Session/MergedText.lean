import SchemaMarkup.Proofs.Merge.BareMerge
import SchemaMarkup.Proofs.Session.Commits
import SchemaMarkup.Proofs.Session.Histories

/-! What the text of a merge says about the merged schema. The schema tells references apart by the
relationships they stand for, the text by what they state from left to right, so that a reference
is missing in the text if an earlier one joins the same fields in the same order.
-/

namespace SchemaMarkup

open Text

/-- A reference that is not read backwards states the relationship it stands for. -/
theorem Ref.stated_eq_relationship {c : Conventions} {r : Ref} (h : r.cardinality ≠ .oneToMany)
    : r.stated c = r.relationship c := by
  rw [stated, relationship, decide_eq_false h]

/-- A merge makes up no one-to-many references. -/
theorem MergeRequest.cardinality_ne_of_mem_merged {r : MergeRequest} {m : Merged}
    (done : r.merged = .ok m) (h : ∀ ref ∈ r.proposal.refs, ref.cardinality ≠ .oneToMany)
    : ∀ ref ∈ m.schema.refs, ref.cardinality ≠ .oneToMany := by
  intro ref hr
  rcases proposed_or_implied_of_mem_merged done hr with
    ⟨q, hq, rfl⟩ | ⟨t, _, f, _, target, _, rfl⟩
  · exact h q hq
  · exact Cardinality.noConfusion

namespace Session

/-- The merge of a bare session succeeds, and if it has tables, its text is read as the schema that
is committed without the references that state from left to right what an earlier one states. So
the text describes the committed schema exactly if all references state something else, and it
does if the proposal has no one-to-many references.
-/
theorem merged_text_describes_iff (s : Session) (bare : s.mergeRequest.Bare)
    : ∃ m s', s.merged = .ok m ∧ s.commit = .ok (m.schema, s')
        ∧ (m.schema.tables ≠ [] →
          Schema.ofText m.text
              = .ok { m.schema with
                refs := distinctBy (Ref.stated .standard) [] m.schema.refs }
            ∧ (Schema.ofText m.text = .ok m.schema
              ↔ (m.schema.refs.map (Ref.stated .standard)).Nodup)
            ∧ ((∀ ref ∈ s.proposal.refs, ref.cardinality ≠ .oneToMany) →
              Schema.ofText m.text = .ok m.schema)) := by
  obtain ⟨m, done⟩ := MergeRequest.exists_merged (r := s.mergeRequest)
    Conventions.namesPrimitives_standard
  refine ⟨m, _, done, commit_of_merged done, fun nonempty => ?_⟩
  obtain ⟨hb, distinct⟩ := bare.bare_merged done
  have read : Schema.ofText m.text
      = .ok { m.schema with refs := distinctBy (Ref.stated .standard) [] m.schema.refs } := by
    rw [MergeRequest.text_merged done]
    exact hb.ofText_withoutRepeats nonempty distinct
  have describes : Schema.ofText m.text = .ok m.schema
      ↔ (m.schema.refs.map (Ref.stated .standard)).Nodup := by
    constructor
    · intro h
      have hs := congrArg Schema.refs (Except.ok.inj (read.symm.trans h))
      rw [← hs]
      exact nodup_keys_distinctBy _ _ _
    · intro h
      rw [read, distinctBy_nil_eq_self h]
  refine ⟨read, describes, fun h => describes.mpr ?_⟩
  have forward := MergeRequest.cardinality_ne_of_mem_merged done h
  have hr : m.schema.refs.map (Ref.stated .standard)
      = m.schema.refs.map (Ref.relationship .standard) :=
    List.map_congr_left fun ref hm => Ref.stated_eq_relationship (forward ref hm)
  rw [hr]
  exact (MergeRequest.wellFormed_of_merged done).refsDistinct

/-- A schema with a reference that is written from the side of the key. -/
def blog : Schema where
  tables := [
    { name := "users"
      fields := [{ name := "_id", type := "unique" }, { name := "name", type := "text" }] },
    { name := "posts"
      fields := [{ name := "_id", type := "unique" }, { name := "author", type := "users" }] }]
  refs := [⟨"users", "_id", .oneToMany, "posts", "author"⟩]

/-- A proposal that adds a table to the schema and a field to one of its tables. -/
def commentedBlog : Schema where
  tables := [
    { name := "posts"
      fields := [{ name := "author", type := "users" }, { name := "editor", type := "users" }] },
    { name := "comments"
      fields := [
        { name := "_id", type := "unique" },
        { name := "post", type := "posts" },
        { name := "user_id", type := "text" }] }]
  refs := [⟨"users", "_id", .oneToMany, "posts", "author"⟩,
    ⟨"comments", "post", .manyToOne, "posts", "id"⟩]

/-- The session in which a table of the schema is renamed and a new field is made to refer to it. -/
def revisedBlog : Session :=
  ((Workspace.opened blog commentedBlog).performAll [
    .rename "users" "people" none,
    .changeField "comments" 2 (.type "people") none]).session

/-- The text of such a session, in which references of both directions are kept and added. -/
theorem merged_text_describes_iff_revisedBlog
    : revisedBlog.mergeRequest.Bare
      ∧ ∃ m s', revisedBlog.merged = .ok m ∧ revisedBlog.commit = .ok (m.schema, s')
          ∧ (m.schema.tables ≠ [] →
            Schema.ofText m.text
                = .ok { m.schema with
                  refs := distinctBy (Ref.stated .standard) [] m.schema.refs }
              ∧ (Schema.ofText m.text = .ok m.schema
                ↔ (m.schema.refs.map (Ref.stated .standard)).Nodup)
              ∧ ((∀ ref ∈ revisedBlog.proposal.refs, ref.cardinality ≠ .oneToMany) →
                Schema.ofText m.text = .ok m.schema)) :=
  ⟨by decide +kernel, merged_text_describes_iff _ (by decide +kernel)⟩

/-- A schema whose reference makes many rows of the referring field out of one. -/
def turned : Schema where
  tables := [
    { name := "users", fields := [{ name := "_id", type := "unique" }] },
    { name := "posts", fields := [{ name := "author", type := "users" }] }]
  refs := [⟨"posts", "author", .oneToMany, "users", "_id"⟩]

/-- Merging such a schema with itself adds the reference that the type of the field implies, which
stands for another relationship, but the text leaves it out, and so is not read as the schema.
-/
theorem merged_text_lacks_implied_ref
    : let s := start turned turned
      let merged := { turned with
        refs := turned.refs ++ [⟨"posts", "author", .manyToOne, "users", "_id"⟩] }
      s.mergeRequest.Bare
        ∧ s.merged = .ok { schema := merged, text := turned.toText, warnings := [] }
        ∧ merged.tables ≠ []
        ∧ Schema.ofText turned.toText ≠ .ok merged := by
  decide +kernel

end Session
end SchemaMarkup
