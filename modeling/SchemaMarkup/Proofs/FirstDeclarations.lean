import SchemaMarkup.Proofs.Additions.Difference
import SchemaMarkup.Vocabulary.Primitive

/-! Schemas without their repetitions. Of the tables of one name the first is kept, and of its
fields the first of each name, so that looking up a table, a field or a key finds what it found
before.
-/

namespace SchemaMarkup

/-- A table with the first of its fields of each name. -/
def Table.withFirstFields (t : Table) : Table :=
  { t with fields := distinctFields t.fields }

/-- A schema with the first of its tables of each name, each with the first of its fields of each
name.
-/
def Schema.firstDeclarations (s : Schema) : Schema :=
  { s with tables := s.distinctTables.map Table.withFirstFields }

theorem Table.nodup_fieldNames_withFirstFields (t : Table)
    : t.withFirstFields.fieldNames.Nodup :=
  nodup_keys_distinctBy Field.name [] t.fields

theorem Table.declares_withFirstFields (t : Table) (x : String)
    : t.withFirstFields.declares x = t.declares x := by
  rw [Bool.eq_iff_iff, Table.declares_iff, Table.declares_iff]
  exact mem_map_distinctBy_nil

/-- The key field of a table is the first of its name, since it is the first key of all. -/
theorem keyField?_withFirstFields (c : Conventions) (t : Table)
    : c.keyField? t.withFirstFields = c.keyField? t :=
  find?_distinctBy c.isKey fun _ h => absurd h List.not_mem_nil

namespace Schema

variable (s : Schema)

theorem nodup_tableNames_firstDeclarations
    : s.firstDeclarations.tableNames.Nodup := by
  rw [tableNames, firstDeclarations, List.map_map]
  exact nodup_keys_distinctBy Table.name [] s.tables

theorem nodup_fieldNames_of_mem_firstDeclarations {t : Table}
    (ht : t ∈ s.firstDeclarations.tables)
    : t.fieldNames.Nodup := by
  obtain ⟨t, _, rfl⟩ := List.mem_map.mp ht
  exact t.nodup_fieldNames_withFirstFields

/-- The first declaration of a table is among the first declarations, with its first fields. -/
theorem table?_firstDeclarations (name : String)
    : s.firstDeclarations.table? name = (s.table? name).map Table.withFirstFields := by
  rw [table?, firstDeclarations, List.find?_map]
  exact congrArg (Option.map Table.withFirstFields)
    (find?_distinctBy (fun n => decide (n = name)) fun _ h => absurd h List.not_mem_nil)

theorem declares_firstDeclarations (name : String)
    : s.firstDeclarations.declares name = s.declares name := by
  have declared (s : Schema) : s.declares name = (s.table? name).isSome := by
    rw [Bool.eq_iff_iff, table?, List.find?_isSome, declares, List.any_eq_true]
  rw [declared, declared, table?_firstDeclarations, Option.isSome_map]

end Schema
end SchemaMarkup
