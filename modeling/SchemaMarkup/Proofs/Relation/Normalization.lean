import SchemaMarkup.Proofs.Outcome
import SchemaMarkup.Proofs.Relation.ImpliedRefs

/-! Schemas in normal form. A schema is normal if the type of every field is the one that follows
for it and every field that refers to a table is covered by a reference. Normalization brings every
schema into this form, whatever its fields and references say, and leaves a normal one as it is.
-/

namespace SchemaMarkup

open Text

/-- The schema with the types that follow for its fields, and then with the references added that
these imply.
-/
def Schema.normalized (c : Conventions) (s : Schema) : Except Error Schema := do
  let typed ← s.withInferredTypes c
  return typed.withImpliedRefs c

-----------------------------------------------------------------------------------------
-- Primitive types that are read as themselves
-----------------------------------------------------------------------------------------

namespace Conventions

/-- Whether every primitive type, as it is written, is taken for itself. -/
def KeepsPrimitives (c : Conventions) : Prop :=
  ∀ p : Primitive, c.primitiveOf p.name = .ok p

theorem keepsPrimitives_standard
    : standard.KeepsPrimitives := by
  intro p
  cases p <;> decide

/-- A key field is unique, whatever is written beside it. -/
theorem eq_unique_of_fieldPrimitive {c : Conventions} {name type : String} {p : Primitive}
    (h : c.fieldPrimitive name type = .ok p) (key : c.resemblesKey name = true)
    : p = .unique := by
  rw [fieldPrimitive, if_pos key] at h
  exact (Except.ok.inj h).symm

/-- A field keeps a primitive type that is written beside it, if it is no key or that type is the
one of keys.
-/
theorem KeepsPrimitives.fieldPrimitive_name {c : Conventions} (h : c.KeepsPrimitives)
    {name : String} {p : Primitive} (key : c.resemblesKey name = true → p = .unique)
    : c.fieldPrimitive name p.name = .ok p := by
  rw [fieldPrimitive]
  split
  · rename_i hk
    rw [key hk]
  · exact h p

end Conventions

-----------------------------------------------------------------------------------------
-- Fields of the type that follows for them
-----------------------------------------------------------------------------------------

/-- Whether the type of a field is the one that follows for it among tables of the given names: the
target of its inline reference, or else the name of a table, or else, if no table follows from its
name either, a primitive type, the one of keys if it looks like a key.
-/
inductive Field.IsTyped (c : Conventions) (tables : List String) (f : Field) : Prop
  | inline (target : nonempty? f.inlineTarget? = some f.type)
  | table (free : nonempty? f.inlineTarget? = none) (declared : f.type ∈ tables)
  | primitive {p : Primitive} (free : nonempty? f.inlineTarget? = none)
    (undeclared : f.type ∉ tables) (unnamed : c.tableOfName? f.name tables = none)
    (written : f.type = p.name) (key : c.resemblesKey f.name = true → p = .unique)

namespace Field

variable {c : Conventions} {tables : List String} {f g : Field}

/-- Inferring a type changes nothing but the type. -/
theorem withInferredType_eq_ok_iff
    : f.withInferredType c tables = .ok g
      ↔ ∃ type, c.inferType f.name f.type tables f.inlineTarget? = .ok type
          ∧ { f with type } = g := by
  simp only [withInferredType, Outcome.bind_eq_ok, pure, Except.pure, Except.ok.injEq]

/-- An inferred type is the one that follows, and still is when it is written beside the field. -/
theorem isTyped_of_withInferredType (h : f.withInferredType c tables = .ok g)
    : g.IsTyped c tables := by
  obtain ⟨type, ht, rfl⟩ := withInferredType_eq_ok_iff.mp h
  rw [Conventions.inferType] at ht
  split at ht
  · rename_i target inline
    exact .inline (Except.ok.inj ht ▸ inline)
  rename_i free
  split at ht
  · rename_i declared
    exact .table free (Except.ok.inj ht ▸ declared)
  split at ht
  · rename_i table named
    exact .table free (Except.ok.inj ht ▸ Conventions.mem_of_tableOfName? named)
  rename_i unnamed
  cases hp : c.fieldPrimitive f.name f.type with
  | error e => rw [hp] at ht; cases ht
  | ok p =>
      rw [hp] at ht
      have written : p.name = type := Except.ok.inj ht
      -- The name of a primitive type may be that of a table too.
      by_cases declared : type ∈ tables
      · exact .table free declared
      · exact .primitive free declared unnamed written.symm
          (Conventions.eq_unique_of_fieldPrimitive hp)

/-- A field of the type that follows for it keeps this type. -/
theorem IsTyped.withInferredType (keeps : c.KeepsPrimitives) (h : f.IsTyped c tables)
    : f.withInferredType c tables = .ok f := by
  refine withInferredType_eq_ok_iff.mpr ⟨f.type, ?_, rfl⟩
  rw [Conventions.inferType]
  cases h with
  | inline target => rw [target]
  | table free declared => rw [free, if_pos declared]
  | primitive free undeclared unnamed written key =>
      rw [free, if_neg undeclared, unnamed, written, keeps.fieldPrimitive_name key]
      rfl

end Field

-----------------------------------------------------------------------------------------
-- Normal schemas
-----------------------------------------------------------------------------------------

namespace Schema

/-- Whether all types of a schema are those that follow and all that is referred to is covered. -/
structure IsNormal (c : Conventions) (s : Schema) : Prop where
  typed : ∀ t ∈ s.tables, ∀ f ∈ t.fields, f.IsTyped c s.tableNames
  covered : Covered c s.tables s.refs

variable {c : Conventions} {s n : Schema}

/-- Inferring types changes nothing but the types of fields. -/
theorem withInferredTypes_eq_ok_iff
    : s.withInferredTypes c = .ok n
      ↔ ∃ tables, List.Forall₂ (fun t u : Table => ∃ fields,
            List.Forall₂ (fun f g => f.withInferredType c s.tableNames = .ok g) t.fields fields
              ∧ { t with fields } = u) s.tables tables
          ∧ { s with tables } = n := by
  simp only [withInferredTypes, Outcome.bind_eq_ok, Outcome.mapM_eq_ok, pure, Except.pure,
    Except.ok.injEq]

/-- Types are inferred for every schema, if every family of types is named after a primitive one.
-/
theorem exists_withInferredTypes (names : c.NamesPrimitives) (s : Schema)
    : ∃ n, s.withInferredTypes c = .ok n := by
  have fields (t : Table)
      : ∃ fields, t.fields.mapM (Field.withInferredType c s.tableNames) = .ok fields := by
    refine Outcome.exists_mapM_eq_ok fun f _ => ?_
    obtain ⟨type, ht⟩ := names.inferType_ok f.name f.type s.tableNames f.inlineTarget?
    exact ⟨_, Field.withInferredType_eq_ok_iff.mpr ⟨type, ht, rfl⟩⟩
  have tables : ∃ tables, s.tables.mapM (fun t => do
      let fields ← t.fields.mapM (Field.withInferredType c s.tableNames)
      return { t with fields }) = .ok tables := by
    refine Outcome.exists_mapM_eq_ok fun t _ => ?_
    obtain ⟨fs, hf⟩ := fields t
    exact ⟨_, Outcome.bind_eq_ok.mpr ⟨fs, hf, rfl⟩⟩
  obtain ⟨ts, ht⟩ := tables
  exact ⟨_, Outcome.bind_eq_ok.mpr ⟨ts, ht, rfl⟩⟩

theorem tableNames_of_withInferredTypes (h : s.withInferredTypes c = .ok n)
    : n.tableNames = s.tableNames := by
  obtain ⟨tables, ht, he⟩ := Outcome.bind_eq_ok.mp h
  obtain rfl := Except.ok.inj he
  refine Outcome.map_eq_of_mapM_eq_ok (fun t u hu => ?_) ht
  obtain ⟨fields, _, hu⟩ := Outcome.bind_eq_ok.mp hu
  exact (congrArg Table.name (Except.ok.inj hu)).symm

theorem isTyped_of_withInferredTypes (h : s.withInferredTypes c = .ok n)
    : ∀ t ∈ n.tables, ∀ f ∈ t.fields, f.IsTyped c n.tableNames := by
  rw [tableNames_of_withInferredTypes h]
  obtain ⟨tables, ht, rfl⟩ := withInferredTypes_eq_ok_iff.mp h
  intro u hu g hg
  obtain ⟨t, _, fields, hf, rfl⟩ := Outcome.exists_of_forall₂ ht hu
  obtain ⟨f, _, he⟩ := Outcome.exists_of_forall₂ hf hg
  exact Field.isTyped_of_withInferredType he

/-- Normalization brings a schema into normal form. References added do not change which types
follow.
-/
theorem isNormal_of_normalized (h : s.normalized c = .ok n)
    : n.IsNormal c := by
  obtain ⟨typed, ht, he⟩ := Outcome.bind_eq_ok.mp h
  obtain rfl := Except.ok.inj he
  have types := isTyped_of_withInferredTypes ht
  exact ⟨types, covered_withImpliedRefs c typed⟩

/-- Normalization leaves a normal schema as it is. -/
theorem IsNormal.normalized (keeps : c.KeepsPrimitives) (h : s.IsNormal c)
    : s.normalized c = .ok s := by
  have typed : s.withInferredTypes c = .ok s := by
    refine withInferredTypes_eq_ok_iff.mpr ⟨s.tables, List.forall₂_same.mpr fun t ht => ?_, rfl⟩
    refine ⟨t.fields, List.forall₂_same.mpr fun f hf => ?_, rfl⟩
    exact (h.typed t ht f hf).withInferredType keeps
  exact Outcome.bind_eq_ok.mpr ⟨s, typed, congrArg _ (withImpliedRefs_of_covered h.covered)⟩

/-- Normalization succeeds on every schema and brings it into normal form, and normalizing the
result once more changes nothing, neither a type nor a reference.
-/
theorem normalized_idempotent (s : Schema)
    : ∃ n, s.normalized .standard = .ok n ∧ n.IsNormal .standard
        ∧ n.normalized .standard = .ok n := by
  obtain ⟨typed, ht⟩ := exists_withInferredTypes Conventions.namesPrimitives_standard s
  have done : s.normalized .standard = .ok (typed.withImpliedRefs .standard) :=
    Outcome.bind_eq_ok.mpr ⟨typed, ht, rfl⟩
  have normal := isNormal_of_normalized done
  exact ⟨_, done, normal, normal.normalized Conventions.keepsPrimitives_standard⟩

end Schema
end SchemaMarkup
