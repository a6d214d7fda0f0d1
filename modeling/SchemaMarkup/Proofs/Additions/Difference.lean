import SchemaMarkup.Additions.Difference
import SchemaMarkup.Proofs.Distinct
import SchemaMarkup.Proofs.OrderedMap

/-! What a comparison records: one entry for each proposed table that adds something, under the
kind of its addition. -/

namespace SchemaMarkup

theorem Schema.table?_eq_none_iff {s : Schema} {name : String}
    : s.table? name = none ↔ name ∉ s.tableNames := by
  simp [table?, tableNames]

theorem Schema.mem_of_table?_eq_some {s : Schema} {name : String} {t : Table}
    (h : s.table? name = some t)
    : t ∈ s.tables ∧ t.name = name :=
  ⟨List.mem_of_find?_eq_some h, by simpa using List.find?_some h⟩

/-- In a schema without repeated table names every table is found under its name. -/
theorem Schema.table?_of_mem {s : Schema} (distinct : s.tableNames.Nodup) {t : Table}
    (ht : t ∈ s.tables)
    : s.table? t.name = some t := by
  cases hf : s.table? t.name with
  | none => exact absurd (List.mem_map_of_mem ht) (table?_eq_none_iff.mp hf)
  | some t' =>
      obtain ⟨ht', hn⟩ := mem_of_table?_eq_some hf
      rw [List.inj_on_of_nodup_map distinct ht' ht hn]

/-- The distinct tables are the first declarations. -/
theorem Schema.mem_distinctTables {s : Schema} {t : Table}
    : t ∈ s.distinctTables ↔ s.table? t.name = some t := by
  rw [distinctTables, mem_distinctBy]
  simp [table?]

theorem Table.declares_iff {t : Table} {x : String}
    : t.declares x = true ↔ x ∈ t.fieldNames := by
  simp [declares, fieldNames]

/-- The fields beyond a base table are those with the names that it lacks. -/
theorem mem_names_fieldsBeyond {old new : Table} {x : String}
    : x ∈ (fieldsBeyond old new).map Field.name ↔ x ∈ new.fieldNames ∧ x ∉ old.fieldNames := by
  rw [fieldsBeyond, distinctFields, mem_map_distinctBy_nil, List.mem_map, Table.fieldNames,
    List.mem_map]
  constructor
  · intro h
    obtain ⟨f, hf, rfl⟩ := h
    obtain ⟨hf, hn⟩ := List.mem_filter.mp hf
    refine ⟨⟨f, hf, rfl⟩, fun hx => ?_⟩
    rw [Table.declares_iff.mpr hx] at hn
    cases hn
  · intro h
    obtain ⟨⟨f, hf, rfl⟩, hn⟩ := h
    refine ⟨f, List.mem_filter.mpr ⟨hf, ?_⟩, rfl⟩
    rwa [Bool.not_eq_true', ← Bool.not_eq_true, Table.declares_iff]

/-- A proposed table has no field beyond a base table that declares all its field names. -/
theorem fieldsBeyond_eq_nil_iff {old new : Table}
    : fieldsBeyond old new = [] ↔ ∀ x ∈ new.fieldNames, x ∈ old.fieldNames := by
  have names : fieldsBeyond old new = [] ↔ (fieldsBeyond old new).map Field.name = [] :=
    List.map_eq_nil_iff.symm
  rw [names, List.eq_nil_iff_forall_not_mem]
  simp only [mem_names_fieldsBeyond, not_and, not_not]

namespace Additions

open OrderedMap

/-- The tables of both kinds are the keys of the two kinds of additions. -/
theorem mem_tableNames {c : Additions} {n : String}
    : n ∈ c.tableNames ↔ ∃ kind, n ∈ (c.entries kind).keys := by
  constructor
  · intro h
    rcases List.mem_append.mp h with h | h
    · exact ⟨.newTables, h⟩
    · exact ⟨.newFields, (List.mem_filter.mp h).1⟩
  · intro h
    obtain ⟨kind, h⟩ := h
    by_cases hn : n ∈ c.newTables.keys
    · exact List.mem_append_left _ hn
    · cases kind with
      | newTables => exact absurd h hn
      | newFields =>
          refine List.mem_append_right _ (List.mem_filter.mpr ⟨h, ?_⟩)
          simpa [← contains_iff] using hn

/-- A table has no kind of additions exactly if it is not among the changes. -/
theorem kindOf?_eq_none_iff {c : Additions} {n : String}
    : c.kindOf? n = none ↔ n ∉ c.tableNames := by
  rw [mem_tableNames, kindOf?, List.find?_eq_none]
  constructor
  · intro h hk
    obtain ⟨kind, hk⟩ := hk
    exact h kind (by cases kind <;> simp [AdditionKind.all]) (contains_iff.mpr hk)
  · intro h kind _ hk
    exact h ⟨kind, contains_iff.mp hk⟩

/-- The entry of a proposed table under a kind of additions, if it makes additions of that kind. -/
def entryOf? (base : Schema) (kind : AdditionKind) (t : Table) : Option (String × List Field) :=
  match addition? base t with
  | some (kind', fields) => if kind' = kind then some (t.name, fields) else none
  | none => none

/-- The description of a proposed table that adds something, if it has one. -/
def descriptionOf? (base : Schema) (t : Table) : Option (String × String) :=
  if (addition? base t).isSome then (Text.nonempty? t.note).map ((t.name, ·)) else none

theorem entryOf?_eq_some_iff {base : Schema} {kind : AdditionKind} {t : Table}
    {e : String × List Field}
    : entryOf? base kind t = some e ↔ t.name = e.1 ∧ addition? base t = some (kind, e.2) := by
  rw [entryOf?]
  cases addition? base t with
  | none => simp
  | some a => by_cases hk : a.1 = kind <;> simp [Prod.ext_iff, hk]

theorem descriptionOf?_eq_some_iff {base : Schema} {t : Table} {e : String × String}
    : descriptionOf? base t = some e
      ↔ t.name = e.1 ∧ (addition? base t).isSome ∧ Text.nonempty? t.note = some e.2 := by
  rw [descriptionOf?]
  split
  · rename_i adds
    simp [adds, Prod.ext_iff, and_comm]
  · rename_i none
    simp [none]

/-- What is made of the distinct tables under their names has the names in their order, each once.
-/
theorem keys_sublist {β : Type} {made? : Table → Option (String × β)}
    (named : ∀ t e, made? t = some e → e.1 = t.name) (s : Schema)
    : ((s.distinctTables.filterMap made?).map Prod.fst).Sublist
        (s.distinctTables.map Table.name) :=
  map_filterMap_sublist named _

theorem nodup_keys_filterMap {β : Type} {made? : Table → Option (String × β)}
    (named : ∀ t e, made? t = some e → e.1 = t.name) (s : Schema)
    : ((s.distinctTables.filterMap made?).map Prod.fst).Nodup :=
  (nodup_keys_distinctBy Table.name [] s.tables).sublist (keys_sublist named s)

theorem entries_additionsTo (base proposed : Schema) (kind : AdditionKind)
    : (additionsTo base proposed kind).entries
      = proposed.distinctTables.filterMap (entryOf? base kind) :=
  entries_ofList
    (nodup_keys_filterMap (fun _ _ h => (entryOf?_eq_some_iff.mp h).1.symm) proposed)

theorem entries_additionNotes (base proposed : Schema)
    : (additionNotes base proposed).entries
      = proposed.distinctTables.filterMap (descriptionOf? base) :=
  entries_ofList
    (nodup_keys_filterMap (fun _ _ h => (descriptionOf?_eq_some_iff.mp h).1.symm) proposed)

/-- The entries of one kind are the proposed tables with additions of that kind, of which each
name has one.
-/
theorem mem_entries_additionsTo {base proposed : Schema} {kind : AdditionKind} {n : String}
    {fields : List Field}
    : (n, fields) ∈ (additionsTo base proposed kind).entries
      ↔ ∃ t ∈ proposed.distinctTables, t.name = n ∧ addition? base t = some (kind, fields) := by
  simp only [entries_additionsTo, List.mem_filterMap, entryOf?_eq_some_iff]

/-- The recorded descriptions are the notes of proposed tables that add something. -/
theorem mem_entries_additionNotes {base proposed : Schema} {n note : String}
    : (n, note) ∈ (additionNotes base proposed).entries
      ↔ ∃ t ∈ proposed.distinctTables, t.name = n ∧ (addition? base t).isSome
          ∧ Text.nonempty? t.note = some note := by
  simp only [entries_additionNotes, List.mem_filterMap, descriptionOf?_eq_some_iff]

/-- The recorded descriptions belong to proposed tables that add something. -/
theorem mem_keys_additionNotes {base proposed : Schema} {n : String}
    (h : n ∈ (additionNotes base proposed).keys)
    : ∃ t ∈ proposed.distinctTables, t.name = n ∧ (addition? base t).isSome := by
  obtain ⟨text, h⟩ := mem_keys.mp h
  obtain ⟨t, ht, hn, ha, _⟩ := mem_entries_additionNotes.mp h
  exact ⟨t, ht, hn, ha⟩

/-- A table is added as a whole exactly if the base does not declare it. -/
theorem addition?_eq_newTables_iff {base : Schema} {t : Table} {fields : List Field}
    : addition? base t = some (.newTables, fields)
      ↔ t.name ∉ base.tableNames ∧ fields = distinctFields t.fields := by
  rw [← Schema.table?_eq_none_iff, addition?]
  split
  · rename_i hn
    simp [hn, eq_comm]
  · rename_i old ho
    split <;> simp [ho]

/-- A table adds fields exactly if the base declares it without some of them. -/
theorem addition?_eq_newFields_iff {base : Schema} {t : Table} {fields : List Field}
    : addition? base t = some (.newFields, fields)
      ↔ ∃ old, base.table? t.name = some old ∧ fields = fieldsBeyond old t ∧ fields ≠ [] := by
  rw [addition?]
  split
  · rename_i hn
    simp [hn]
  · rename_i old ho
    split
    · rename_i hb
      simp [ho, hb]
    · rename_i f fs hb
      simp only [ho, hb, Option.some.injEq, Prod.mk.injEq, true_and, exists_eq_left', eq_comm]
      exact ⟨fun he => ⟨he, he ▸ List.cons_ne_nil f fs⟩, fun he => he.1⟩

/-- A table adds fields only if the base declares it, and then at least one. -/
theorem addition?_newFields {base : Schema} {t : Table} {fields : List Field}
    (h : addition? base t = some (.newFields, fields))
    : t.name ∈ base.tableNames ∧ fields ≠ [] := by
  obtain ⟨old, ho, _, hn⟩ := addition?_eq_newFields_iff.mp h
  exact ⟨List.mem_map.mpr ⟨old, Schema.mem_of_table?_eq_some ho⟩, hn⟩

/-- A table is added as a whole only if the base does not declare it. -/
theorem addition?_newTables {base : Schema} {t : Table} {fields : List Field}
    (h : addition? base t = some (.newTables, fields))
    : t.name ∉ base.tableNames :=
  (addition?_eq_newTables_iff.mp h).1

/-- A proposed table adds nothing exactly if the base declares it with all its field names. -/
theorem addition?_eq_none_iff {base : Schema} {t : Table}
    : addition? base t = none
      ↔ ∃ old, base.table? t.name = some old ∧ ∀ x ∈ t.fieldNames, x ∈ old.fieldNames := by
  simp only [addition?, ← fieldsBeyond_eq_nil_iff]
  split
  · rename_i hn
    simp [hn]
  · rename_i old ho
    split
    · rename_i hb
      simp [ho, hb]
    · rename_i f fs hb
      simp [ho, hb]

/-- A proposal adds nothing to a base exactly if the base declares all its tables with all their
field names, where first declarations count.
-/
theorem between_eq_empty_iff {base proposed : Schema}
    : between base proposed = {}
      ↔ ∀ t ∈ proposed.distinctTables, ∃ old, base.table? t.name = some old
          ∧ ∀ x ∈ t.fieldNames, x ∈ old.fieldNames := by
  simp only [← addition?_eq_none_iff]
  constructor
  · intro h t ht
    cases ha : addition? base t with
    | none => rfl
    | some a =>
        obtain ⟨kind, fields⟩ := a
        have he : (t.name, fields) ∈ ((between base proposed).entries kind).entries := by
          have hm := mem_entries_additionsTo.mpr ⟨t, ht, rfl, ha⟩
          cases kind <;> exact hm
        rw [h] at he
        cases kind <;> cases he
  · intro h
    have entries (kind : AdditionKind) : additionsTo base proposed kind = {} := by
      rw [additionsTo, List.filterMap_eq_nil_iff.mpr fun t ht => by rw [h t ht]]
      rfl
    have notes : additionNotes base proposed = {} := by
      rw [additionNotes, List.filterMap_eq_nil_iff.mpr fun t ht => by rw [h t ht]; rfl]
      rfl
    rw [between, entries, entries, notes]

/-- A schema without repeated table names has nothing to add to itself. -/
theorem between_self {s : Schema} (distinct : s.tableNames.Nodup)
    : between s s = {} :=
  between_eq_empty_iff.mpr fun t ht =>
    ⟨t, Schema.table?_of_mem distinct (mem_of_mem_distinctBy ht), fun _ hx => hx⟩

/-- The additions to a table are recorded under its name. -/
theorem getD_additionsTo {base proposed : Schema} {kind : AdditionKind} {t : Table}
    {fields : List Field} (ht : proposed.table? t.name = some t)
    (ha : addition? base t = some (kind, fields))
    : (additionsTo base proposed kind).getD t.name [] = fields :=
  getD_of_mem (mem_entries_additionsTo.mpr ⟨t, Schema.mem_distinctTables.mpr ht, rfl, ha⟩) []

end Additions
end SchemaMarkup
