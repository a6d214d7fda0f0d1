import SchemaMarkup.Proofs.Distinct
import SchemaMarkup.Proofs.Relation.Inference
import SchemaMarkup.Relation.Implied

/-! The references that a schema implies. A field refers to the table that its type names, or else
to the one that its name leads to; of several tables of one name the last is meant. Adding implied
references leaves no field that refers to a table without one, and adds none that a declared one or
another added one states already.
-/

namespace SchemaMarkup

-----------------------------------------------------------------------------------------
-- The table a field refers to
-----------------------------------------------------------------------------------------

/-- Whether a table is the last one declared under a name. -/
def IsLastDeclared (tables : List Table) (name : String) (t : Table) : Prop :=
  t.name = name ∧ ∃ before after, tables = before ++ t :: after ∧ ∀ u ∈ after, u.name ≠ name

theorem lastTable?_eq_some_iff_isLastDeclared {tables : List Table} {name : String} {t : Table}
    : lastTable? tables name = some t ↔ IsLastDeclared tables name t := by
  rw [lastTable?, List.find?_eq_some_iff_append, decide_eq_true_iff]
  refine and_congr_right fun _ => ?_
  constructor
  · intro h
    obtain ⟨after, before, he, apart⟩ := h
    refine ⟨before.reverse, after.reverse, ?_, fun u hu => ?_⟩
    · simpa using congrArg List.reverse he
    · simpa using apart u (List.mem_reverse.mp hu)
  · intro h
    obtain ⟨before, after, rfl, apart⟩ := h
    refine ⟨after.reverse, before.reverse, by simp, fun u hu => ?_⟩
    simpa using apart u (List.mem_reverse.mp hu)

/-- Every name that is declared has a last declaration. -/
theorem exists_isLastDeclared {tables : List Table} {name : String}
    (h : name ∈ tables.map Table.name)
    : ∃ t, IsLastDeclared tables name t := by
  obtain ⟨t, ht, rfl⟩ := List.mem_map.mp h
  have found : (lastTable? tables t.name).isSome := by
    rw [lastTable?, List.find?_isSome]
    exact ⟨t, List.mem_reverse.mpr ht, decide_eq_true rfl⟩
  obtain ⟨target, hl⟩ := Option.isSome_iff_exists.mp found
  exact ⟨target, lastTable?_eq_some_iff_isLastDeclared.mp hl⟩

theorem IsLastDeclared.mem {tables : List Table} {name : String} {t : Table}
    (h : IsLastDeclared tables name t)
    : name ∈ tables.map Table.name := by
  obtain ⟨rfl, before, after, rfl, _⟩ := h
  exact List.mem_map_of_mem (List.mem_append_right before List.mem_cons_self)

/-- The name, among those of the tables, that a field refers to: its type, if that names a table,
and else the one that its own name leads to without the suffix of a reference.
-/
inductive Field.RefersTo (c : Conventions) (tables : List String) (f : Field) : String → Prop
  | byType (declared : f.type ∈ tables)
    : f.RefersTo c tables f.type
  | byName {stem name : String} (undeclared : f.type ∉ tables)
    (marked : c.referenceStem? f.name = some stem)
    (found : referencedTable? stem tables = some name)
    : f.RefersTo c tables name

namespace Field.RefersTo

variable {c : Conventions} {tables : List String} {f : Field} {name : String}

/-- A field refers to tables that are declared. -/
theorem mem (h : f.RefersTo c tables name)
    : name ∈ tables := by
  cases h with
  | byType declared => exact declared
  | byName _ _ found => exact mem_of_referencedTable? found

/-- A field whose type names no table refers to one exactly by its name. -/
theorem iff_of_undeclared (undeclared : f.type ∉ tables)
    : f.RefersTo c tables name ↔ c.tableOfName? f.name tables = some name := by
  rw [Conventions.tableOfName?, Option.bind_eq_some_iff]
  constructor
  · intro h
    cases h with
    | byType declared => exact absurd declared undeclared
    | byName _ marked found => exact ⟨_, marked, found⟩
  · intro h
    obtain ⟨stem, marked, found⟩ := h
    exact .byName undeclared marked found

end Field.RefersTo

/-- The table that is looked up for a field is the last one of the name that the field refers to.
-/
theorem Conventions.impliedTarget?_eq_some_iff {c : Conventions} {s : Schema} {f : Field}
    {target : Table}
    : c.impliedTarget? s f = some target
      ↔ ∃ name, f.RefersTo c s.tableNames name ∧ IsLastDeclared s.tables name target := by
  rw [impliedTarget?]
  by_cases declared : f.type ∈ s.tableNames
  · obtain ⟨t, hl⟩ := exists_isLastDeclared declared
    have found := lastTable?_eq_some_iff_isLastDeclared.mpr hl
    have same {u : Table} : IsLastDeclared s.tables f.type u ↔ t = u := by
      rw [← lastTable?_eq_some_iff_isLastDeclared, found, Option.some_inj]
    rw [found, Option.some_or]
    constructor
    · intro h
      exact ⟨_, .byType declared, same.mpr (Option.some.inj h)⟩
    · intro h
      obtain ⟨name, refers, last⟩ := h
      cases refers with
      | byType => exact congrArg some (same.mp last)
      | byName undeclared => exact absurd declared undeclared
  · have none : lastTable? s.tables f.type = none := by
      refine Option.eq_none_iff_forall_ne_some.mpr fun t hl => declared ?_
      exact (lastTable?_eq_some_iff_isLastDeclared.mp hl).mem
    rw [none, Option.none_or, Option.bind_eq_some_iff]
    simp only [Field.RefersTo.iff_of_undeclared declared, lastTable?_eq_some_iff_isLastDeclared]

-----------------------------------------------------------------------------------------
-- The references added
-----------------------------------------------------------------------------------------

/-- Whether a field of one of the tables refers to a table, of which the last declaration is given.
-/
structure Refers (c : Conventions) (tables : List Table) (t : Table) (f : Field) (target : Table)
    : Prop where
  table : t ∈ tables
  field : f ∈ t.fields
  name : f.RefersTo c (tables.map Table.name) target.name
  last : IsLastDeclared tables target.name target

/-- The reference of a field to the key of a table. -/
def Ref.toKey (c : Conventions) (t : Table) (f : Field) (target : Table) : Ref :=
  ⟨t.name, f.name, .manyToOne, target.name, c.keyFieldName target⟩

/-- The implied references are those of the fields that refer to a table. -/
theorem mem_impliedRefs {c : Conventions} {s : Schema} {ref : Ref}
    : ref ∈ impliedRefs c s.tables (c.impliedTarget? s)
      ↔ ∃ t f target, Refers c s.tables t f target ∧ ref = .toKey c t f target := by
  simp only [impliedRefs, List.mem_flatMap, List.mem_filterMap, Option.map_eq_some_iff,
    Conventions.impliedTarget?_eq_some_iff]
  constructor
  · intro h
    obtain ⟨t, ht, f, hf, target, ⟨name, refers, last⟩, rfl⟩ := h
    obtain rfl := last.1
    exact ⟨t, f, target, ⟨ht, hf, refers, last⟩, rfl⟩
  · intro h
    obtain ⟨t, f, target, h, rfl⟩ := h
    exact ⟨t, h.table, f, h.field, target, ⟨_, h.name, h.last⟩, rfl⟩

/-- Whether some of the references relates every field that refers to a table to the key of that
table, whichever way it is read and however the key is spelled.
-/
def Covered (c : Conventions) (tables : List Table) (refs : List Ref) : Prop :=
  ∀ t f target, Refers c tables t f target →
    ∃ ref ∈ refs, ref.relationship c
      = ⟨t.name, f.name, target.name, c.unifyKey (c.keyFieldName target)⟩

namespace Schema

/-- With the implied references added, all that is referred to is covered. -/
theorem covered_withImpliedRefs (c : Conventions) (s : Schema)
    : Covered c s.tables (s.withImpliedRefs c).refs := by
  intro t f target refers
  have implied : (Ref.toKey c t f target).relationship c
      ∈ (impliedRefs c s.tables (c.impliedTarget? s)).map (Ref.relationship c) :=
    List.mem_map_of_mem (mem_impliedRefs.mpr ⟨t, f, target, refers, rfl⟩)
  rw [← List.mem_map, withImpliedRefs, List.map_append, List.mem_append]
  exact or_iff_not_imp_left.mpr fun hd => mem_map_distinctBy.mpr ⟨hd, implied⟩

/-- Where all that is referred to is covered, no reference is added. -/
theorem withImpliedRefs_of_covered {c : Conventions} {s : Schema} (h : Covered c s.tables s.refs)
    : s.withImpliedRefs c = s := by
  have none : distinctBy (Ref.relationship c) (s.refs.map (Ref.relationship c))
      (impliedRefs c s.tables (c.impliedTarget? s)) = [] := by
    refine distinctBy_eq_nil fun ref hr => ?_
    obtain ⟨t, f, target, refers, rfl⟩ := mem_impliedRefs.mp hr
    exact List.mem_map.mpr (h t f target refers)
  rw [withImpliedRefs, none, List.append_nil]

/-- Whether references complete those that a schema declares, without any that is not needed. -/
structure CompletedBy (c : Conventions) (s : Schema) (added : List Ref) : Prop where
  /-- What a field refers to by its type or its name can be looked up. -/
  resolved
    : ∀ t ∈ s.tables, ∀ f ∈ t.fields, ∀ name, f.RefersTo c s.tableNames name →
        ∃ target, IsLastDeclared s.tables name target
  directed : ∀ ref ∈ added, ref.cardinality = .manyToOne
  covered : Covered c s.tables (s.refs ++ added)
  undeclared : ∀ ref ∈ added, ref.relationship c ∉ s.refs.map (Ref.relationship c)
  distinct : (added.map (Ref.relationship c)).Nodup
  implied
    : ∀ ref ∈ added, ∃ t f target, Refers c s.tables t f target ∧ ref = .toKey c t f target

/-- Adding the references that a schema implies succeeds for every schema. It keeps the declared
ones as they are and adds to them exactly what is missing: references of fields to the keys of the
tables they refer to, so that all such fields are covered, and none that is stated already.
-/
theorem implied_refs_complete_minimal (c : Conventions) (s : Schema)
    : ∃ added, s.withImpliedRefs c = { s with refs := s.refs ++ added }
        ∧ s.CompletedBy c added := by
  refine ⟨_, rfl, ?_⟩
  have implied {ref : Ref} (hr : ref ∈ distinctBy (Ref.relationship c)
      (s.refs.map (Ref.relationship c)) (impliedRefs c s.tables (c.impliedTarget? s)))
      : ∃ t f target, Refers c s.tables t f target ∧ ref = .toKey c t f target :=
    mem_impliedRefs.mp (mem_of_mem_distinctBy hr)
  exact {
    resolved := fun t _ f _ name refers => exists_isLastDeclared refers.mem
    directed := by
      intro ref hr
      obtain ⟨t, f, target, _, rfl⟩ := implied hr
      rfl
    covered := covered_withImpliedRefs c s
    undeclared := fun ref hr => key_notMem_of_mem_distinctBy hr
    distinct := nodup_keys_distinctBy _ _ _
    implied := fun ref hr => implied hr
  }

end Schema
end SchemaMarkup
