import SchemaMarkup.Merge.Resolution
import SchemaMarkup.Proofs.Outcome
import SchemaMarkup.Proofs.Relation.Inference

/-! Settling the types of drafts. It keeps the names of tables and fields, leaves no pending
field with a type that is neither primitive nor known, and cannot fail under families that are
named after the primitive types.
-/

namespace SchemaMarkup

variable {c : Conventions} {known : List String}

/-- A field without inline references has no inline target. -/
theorem Field.inlineTarget?_withoutInlineRefs (f : Field)
    : f.withoutInlineRefs.inlineTarget? = none := by
  rw [inlineTarget?, List.findSome?_eq_none_iff]
  intro s hs
  have hn := (List.mem_filter.mp hs).2
  rw [Option.isNone_iff_eq_none.mp hn, Option.map_none]

/-- Dropping inline references keeps the name of a field. -/
@[simp]
theorem Field.name_ground (table : String) (f : Field)
    : (f.ground known table).1.name = f.name := by
  rw [ground]
  split
  · rfl
  · split <;> rfl

/-- The inline reference that a grounded field still has leads to a known table. -/
theorem Field.inlineTarget?_ground_mem {table target : String} {f : Field}
    (h : target ∈ (f.ground known table).1.inlineTarget?)
    : target ∈ known := by
  rw [ground] at h
  split at h
  · rename_i hn
    rw [hn] at h
    cases h
  · rename_i t ht
    split at h
    · rename_i hk
      rw [ht] at h
      exact Option.some.inj h ▸ hk
    · rw [inlineTarget?_withoutInlineRefs] at h
      cases h

/-- A settled field keeps its name, and its type is settled. -/
theorem Field.settled_of_resolve {table : String} {f : Field} {p : Field × List MergeNotice}
    (h : f.resolve c known table = .ok p)
    : p.1.name = f.name ∧ IsSettledType known p.1.type := by
  obtain ⟨type, ht, h⟩ := Outcome.bind_eq_ok.mp h
  cases h
  refine ⟨name_ground table f, ?_⟩
  exact Conventions.isSettledType_of_inferType
    (fun target hm => inlineTarget?_ground_mem hm) ht

/-- Every field can be settled, if the families are named after primitive types. -/
theorem Field.resolve_ok (hc : c.NamesPrimitives) (known : List String) (table : String)
    (f : Field)
    : ∃ p, f.resolve c known table = .ok p := by
  obtain ⟨type, ht⟩ := hc.inferType_ok (f.ground known table).1.name
    (f.ground known table).1.type known (f.ground known table).1.inlineTarget?
  exact ⟨_, Outcome.bind_eq_ok.mpr ⟨type, ht, rfl⟩⟩

/-- What settling a draft makes of it. -/
structure Draft.Resolved (known : List String) (d : Draft) (t : Table) : Prop where
  /-- The table is the one that was drafted. -/
  name_eq : t.name = d.name
  /-- It has the fields of the draft, in order. -/
  fieldNames_eq : t.fieldNames = d.table.fieldNames
  /-- It has the note of the draft. -/
  note_eq : t.note = d.table.note
  /-- The pending fields have settled types. -/
  settled : ∀ f ∈ t.fields, f.name ∈ d.pending.getD [] → IsSettledType known f.type

/-- A draft settles into a table of its name and fields, pending ones with settled types. -/
theorem Draft.resolved_of_resolve {d : Draft} {p : Table × List MergeNotice}
    (h : d.resolve c known = .ok p)
    : d.Resolved known p.1 := by
  obtain ⟨fields, hf, h⟩ := Outcome.bind_eq_ok.mp h
  cases h
  refine ⟨rfl, ?_, rfl, ?_⟩
  · rw [Table.fieldNames, Table.fieldNames, List.map_map]
    refine Outcome.map_eq_of_mapM_eq_ok ?_ hf
    intro f p hp
    split at hp
    · exact (Field.settled_of_resolve hp).1
    · cases hp
      rfl
  · intro f hm hn
    obtain ⟨p, hp, rfl⟩ := List.mem_map.mp hm
    obtain ⟨f, _, he⟩ := Outcome.exists_of_mem_mapM hf hp
    split at he
    · exact (Field.settled_of_resolve he).2
    · rename_i hnf
      cases he
      exact absurd hn hnf

/-- Every draft can be settled, if the families are named after primitive types. -/
theorem Draft.resolve_ok (hc : c.NamesPrimitives) (known : List String) (d : Draft)
    : ∃ p, d.resolve c known = .ok p := by
  obtain ⟨fields, hf⟩ : ∃ fields, (d.table.fields.mapM fun f =>
      if f.name ∈ d.pending.getD [] then f.resolve c known d.name else pure (f, []))
      = .ok fields := by
    apply Outcome.exists_mapM_eq_ok
    intro f _
    split
    · exact Field.resolve_ok hc known d.name f
    · exact ⟨_, rfl⟩
  exact ⟨_, Outcome.bind_eq_ok.mpr ⟨fields, hf, rfl⟩⟩

end SchemaMarkup
