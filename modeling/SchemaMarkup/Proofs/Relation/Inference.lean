import Mathlib.Data.List.Basic
import SchemaMarkup.Proofs.Text.Blank
import SchemaMarkup.Relation.Lookup

/-! Inferred types. Whatever is written beside a field, the type inferred for it names a known
table or is one of the primitive types, and inference cannot fail if every family of types is
named after a primitive one.
-/

namespace SchemaMarkup

open Text

/-- The table that a name spells is one of the tables. -/
theorem mem_of_spelledTable? {tables : List String} {name t : String}
    (h : spelledTable? tables name = some t)
    : t ∈ tables := by
  rcases Option.or_eq_some_iff.mp h with h | ⟨_, h⟩
  · exact List.mem_of_find?_eq_some h
  · exact List.mem_of_find?_eq_some h

/-- The table that a name means is one of the tables. -/
theorem mem_of_meantTable? {tables : List String} {name t : String}
    (h : meantTable? tables name = some t)
    : t ∈ tables := by
  obtain ⟨h, _⟩ := nonempty?_eq_some_iff.mp h
  rcases Option.or_eq_some_iff.mp h with h | ⟨_, h⟩
  · exact mem_of_spelledTable? h
  · exact List.mem_of_find?_eq_some h

theorem mem_of_referencedTable? {stem t : String} {tables : List String}
    (h : referencedTable? stem tables = some t)
    : t ∈ tables := by
  obtain ⟨part, _, h⟩ := List.exists_of_findSome?_eq_some h
  exact List.mem_mergeSort.mp (mem_of_meantTable? h)

/-- Whether a type is one of the primitive types or names one of the tables. -/
def IsSettledType (tables : List String) (type : String) : Prop :=
  (∃ p : Primitive, type = p.name) ∨ type ∈ tables

namespace Conventions

/-- Whether every family of types is named after a primitive type. -/
def NamesPrimitives (c : Conventions) : Prop :=
  ∀ f ∈ c.families, (Primitive.ofName? f.name).isSome

/-- The standard families are named after the primitive types. -/
theorem namesPrimitives_standard
    : standard.NamesPrimitives := by
  unfold NamesPrimitives
  decide

/-- The table that a field name refers to is one of the tables. -/
theorem mem_of_tableOfName? {c : Conventions} {name t : String} {tables : List String}
    (h : c.tableOfName? name tables = some t)
    : t ∈ tables := by
  obtain ⟨stem, _, h⟩ := Option.bind_eq_some_iff.mp h
  exact mem_of_referencedTable? h

/-- Every type as written has a primitive type, if the families are named after such. -/
theorem NamesPrimitives.fieldPrimitive_ok {c : Conventions} (h : c.NamesPrimitives)
    (name type : String)
    : ∃ p, c.fieldPrimitive name type = .ok p := by
  rw [fieldPrimitive]
  split
  · exact ⟨_, rfl⟩
  · simp only [primitiveOf]
    split
    · exact ⟨_, rfl⟩
    · rename_i family hf
      have hm : family ∈ c.families := by
        rcases Option.or_eq_some_iff.mp hf with hf | ⟨_, hf⟩
        · exact List.mem_of_find?_eq_some hf
        · exact List.mem_of_find?_eq_some hf
      obtain ⟨p, hp⟩ := Option.isSome_iff_exists.mp (h family hm)
      exact ⟨p, by rw [hp]⟩

/-- Inference does not fail, if the families are named after primitive types. -/
theorem NamesPrimitives.inferType_ok {c : Conventions} (h : c.NamesPrimitives)
    (name type : String) (tables : List String) (inlineTarget : Option String)
    : ∃ t, c.inferType name type tables inlineTarget = .ok t := by
  rw [inferType]
  split
  · exact ⟨_, rfl⟩
  · split
    · exact ⟨_, rfl⟩
    · split
      · exact ⟨_, rfl⟩
      · obtain ⟨p, hp⟩ := h.fieldPrimitive_ok name type
        exact ⟨p.name, by rw [hp]; rfl⟩

/-- An inferred type is settled, provided that the inline reference, if there is one, leads to
a table.
-/
theorem isSettledType_of_inferType {c : Conventions} {name type t : String} {tables : List String}
    {inlineTarget : Option String} (grounded : ∀ target ∈ inlineTarget, target ∈ tables)
    (h : c.inferType name type tables inlineTarget = .ok t)
    : IsSettledType tables t := by
  rw [inferType] at h
  split at h
  · rename_i target ht
    exact .inr (Except.ok.inj h ▸ grounded target (nonempty?_eq_some_iff.mp ht).1)
  · split at h
    · rename_i hm
      exact .inr (Except.ok.inj h ▸ hm)
    · split at h
      · rename_i table ht
        exact .inr (Except.ok.inj h ▸ mem_of_tableOfName? ht)
      · cases hp : c.fieldPrimitive name type with
        | error e => rw [hp] at h; cases h
        | ok p =>
            rw [hp] at h
            exact .inl ⟨p, (Except.ok.inj h).symm⟩

end Conventions
end SchemaMarkup
