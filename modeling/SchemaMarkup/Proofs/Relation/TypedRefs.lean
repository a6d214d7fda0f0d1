import SchemaMarkup.Proofs.Relation.Lookup
import SchemaMarkup.Proofs.Relation.Normalization

/-! The references that a schema with inferred types implies. A field refers to a table by its type
or by its name, and its name is looked up again only if its type names no table. Once the types that
follow are written, the names that lead to tables have become types, so that types alone imply every
reference.
-/

namespace SchemaMarkup

/-- Whether every inline reference of a schema leads to a table that the schema declares. -/
def Schema.IsInlineGrounded (s : Schema) : Prop :=
  ∀ t ∈ s.tables, ∀ f ∈ t.fields, ∀ target ∈ f.inlineTarget?, target ∈ s.tableNames

instance (s : Schema) : Decidable s.IsInlineGrounded :=
  inferInstanceAs (Decidable (∀ t ∈ s.tables, ∀ f ∈ t.fields, ∀ target ∈ f.inlineTarget?,
    target ∈ s.tableNames))

variable {c : Conventions} {s typed : Schema}

/-- A field of the type that follows for it refers to a table by its type or not at all. -/
theorem Field.IsTyped.impliedTarget? {f : Field} (h : f.IsTyped c s.tableNames)
    (grounded : ∀ target ∈ f.inlineTarget?, target ∈ s.tableNames)
    : c.impliedTarget? s f = lastTable? s.tables f.type := by
  have byType (declared : f.type ∈ s.tableNames)
      : c.impliedTarget? s f = lastTable? s.tables f.type := by
    obtain ⟨t, last⟩ := exists_isLastDeclared declared
    rw [Conventions.impliedTarget?, lastTable?_eq_some_iff_isLastDeclared.mpr last,
      Option.some_or]
  cases h with
  | inline target => exact byType (grounded f.type (Text.nonempty?_eq_some_iff.mp target).1)
  | table _ declared => exact byType declared
  | primitive _ _ unnamed _ _ =>
      rw [Conventions.impliedTarget?, unnamed, Option.bind_none, Option.or_none]

/-- Rules that find the same tables for fields imply the same references. -/
theorem impliedRefs_congr {tables : List Table} {rule rule' : Field → Option Table}
    (h : ∀ t ∈ tables, ∀ f ∈ t.fields, rule f = rule' f)
    : impliedRefs c tables rule = impliedRefs c tables rule' := by
  refine List.flatMap_congr fun t ht => List.filterMap_congr fun f hf => ?_
  rw [h t ht f hf]

namespace Schema

/-- Inferring types changes no inline reference and no name of a table. -/
theorem IsInlineGrounded.withInferredTypes (grounded : s.IsInlineGrounded)
    (h : s.withInferredTypes c = .ok typed)
    : typed.IsInlineGrounded := by
  have names := tableNames_of_withInferredTypes h
  obtain ⟨tables, ht, rfl⟩ := withInferredTypes_eq_ok_iff.mp h
  intro u hu g hg target inline
  obtain ⟨t, hm, fields, hf, rfl⟩ := Outcome.exists_of_forall₂ ht hu
  obtain ⟨f, hfm, hi⟩ := Outcome.exists_of_forall₂ hf hg
  obtain ⟨type, _, rfl⟩ := Field.withInferredType_eq_ok_iff.mp hi
  rw [names]
  exact grounded t hm f hfm target inline

/-- Of a schema with the types that follow for its fields, the references that its fields imply by
type or by name are those that they imply by type, one by one and in this order.
-/
theorem implied_refs_follow_types (grounded : s.IsInlineGrounded)
    (h : s.withInferredTypes c = .ok typed)
    : (typed.withImpliedRefs c).refs = typed.refs ++ refsOfTypes c typed.tables typed.refs := by
  have types := isTyped_of_withInferredTypes h
  have inline := grounded.withInferredTypes h
  have same : impliedRefs c typed.tables (c.impliedTarget? typed)
      = impliedRefs c typed.tables fun f => lastTable? typed.tables f.type := by
    refine impliedRefs_congr fun t ht f hf => ?_
    exact (types t ht f hf).impliedTarget? (inline t ht f hf)
  rw [withImpliedRefs, refsOfTypes, same]

end Schema

/-- A schema in which fields lead to tables by an inline reference, by type and by name, and of
which one table is declared twice.
-/
def clinic : Schema where
  tables := [
    { name := "doctors", fields := [{ name := "id", type := "int" }] },
    { name := "visits"
      fields := [
        { name := "doctor_id", type := "int" },
        { name := "place", type := "varchar(8)", constraints := ["Ref: > \"rooms\".number"] },
        { name := "follows", type := "visits" },
        { name := "held", type := "timestamp" }] },
    { name := "rooms", fields := [{ name := "number", type := "int" }] },
    { name := "doctors", fields := [{ name := "_id", type := "uuid" }] }]
  refs := [⟨"rooms", "_id", .oneToMany, "visits", "place"⟩]

/-- The same schema with the types that follow. -/
def typedClinic : Schema :=
  { clinic with
    tables := [
      { name := "doctors", fields := [{ name := "id", type := "unique" }] },
      { name := "visits"
        fields := [
          { name := "doctor_id", type := "doctors" },
          { name := "place", type := "rooms", constraints := ["Ref: > \"rooms\".number"] },
          { name := "follows", type := "visits" },
          { name := "held", type := "date" }] },
      { name := "rooms", fields := [{ name := "number", type := "number" }] },
      { name := "doctors", fields := [{ name := "_id", type := "unique" }] }] }

/-- Two references are added to the one that such a schema declares, which covers a third. -/
theorem Schema.implied_refs_follow_types_clinic
    : clinic.IsInlineGrounded ∧ clinic.withInferredTypes .standard = .ok typedClinic
      ∧ (typedClinic.withImpliedRefs .standard).refs
        = typedClinic.refs ++ refsOfTypes .standard typedClinic.tables typedClinic.refs
      ∧ refsOfTypes .standard typedClinic.tables typedClinic.refs
        = [⟨"visits", "doctor_id", .manyToOne, "doctors", "_id"⟩,
          ⟨"visits", "follows", .manyToOne, "visits", "_id"⟩] := by
  have grounded : clinic.IsInlineGrounded := by decide +kernel
  have order : Text.sorted clinic.tableNames = ["doctors", "doctors", "rooms", "visits"] :=
    Text.sorted_eq_of_perm (by decide +kernel) (by decide +kernel)
  have types : clinic.withInferredTypes .standard = .ok typedClinic := by
    delta withInferredTypes Field.withInferredType Conventions.inferType Conventions.tableOfName?
      referencedTable?
    simp only [order]
    decide +kernel
  refine ⟨grounded, types, implied_refs_follow_types grounded types, by decide +kernel⟩

end SchemaMarkup
