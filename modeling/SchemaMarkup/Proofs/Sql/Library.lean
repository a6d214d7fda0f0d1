import Mathlib.Algebra.GroupWithZero.Nat
import Mathlib.Algebra.Order.BigOperators.Group.List
import Mathlib.Algebra.Order.Group.Nat
import SchemaMarkup.Sql.Tables

/-! What is relied on in a library for SQL tables. It builds tables as they are described to it,
puts them in order if that can be done, and writes all their foreign keys, so that statements tell
by their length alone that no foreign key was added.
-/

namespace SchemaMarkup.Sql

namespace SqlTable

/-- A table with the foreign keys of its columns replaced. -/
def withKeys (keys : String → List KeyTarget) (t : SqlTable) : SqlTable :=
  { t with columns := t.columns.map fun c => { c with keys := keys c.name } }

/-- A table is left as it is by keys that its columns have already, and by no others. -/
theorem withKeys_eq_self_iff {keys : String → List KeyTarget} {t : SqlTable}
    : t.withKeys keys = t ↔ ∀ c ∈ t.columns, keys c.name = c.keys := by
  have columns : t.withKeys keys = t
      ↔ (t.columns.map fun c => { c with keys := keys c.name }) = t.columns.map id := by
    rw [List.map_id, withKeys, SqlTable.mk.injEq, and_iff_right rfl]
  have column (c : Column) : { c with keys := keys c.name } = id c ↔ keys c.name = c.keys := by
    cases c
    simp
  rw [columns, List.map_inj_left]
  exact forall₂_congr fun c _ => column c

end SqlTable

-----------------------------------------------------------------------------------------
-- What a library is documented to do
-----------------------------------------------------------------------------------------

namespace Library

/-- What is relied on when tables are built. -/
structure BuildsTables (lib : Library) : Prop where
  /-- The target of a foreign key is written as a table, a dot and a column. -/
  reads_target
    : ∀ table column : String, '.' ∉ column.toList
        → lib.target (table ++ "." ++ column) = ⟨table, column⟩
  /-- Columns with different names are refused just if one of them has no name. -/
  accepts_iff : ∀ names : List String, names.Nodup → (lib.check names = .ok () ↔ "" ∉ names)

/-- What is relied on when tables are created. -/
structure CreatesTables (lib : Library) : Prop where
  /-- Tables with different names are put in some order if all their foreign keys lead to columns of
  theirs, in a circle or not.
  -/
  arranges
    : ∀ tables : List SqlTable, (tables.map SqlTable.name).Nodup
        → (∀ t ∈ tables, ∀ column ∈ t.columns, ∀ k ∈ column.keys,
            ∃ target ∈ tables, target.name = k.table ∧ k.column ∈ target.columns.map Column.name)
        → ∃ arranged, lib.arrange tables = .ok arranged ∧ arranged.Perm tables
  /-- Each foreign key is a part of the statement for its table, so further ones make it longer. -/
  writes_keys
    : ∀ (d : Dialect) (t : SqlTable) (keys : String → List KeyTarget),
        (∀ c ∈ t.columns, c.keys <+: keys c.name)
        → t.withKeys keys ≠ t
        → (lib.statement d t).length < (lib.statement d (t.withKeys keys)).length

end Library

-----------------------------------------------------------------------------------------
-- The length of statements
-----------------------------------------------------------------------------------------

variable {lib : Library}

/-- The length of statements is that of each and of what ends them, by induction on the tables. -/
theorem length_statements (lib : Library) (d : Dialect) (tables : List SqlTable)
    : (statements lib d tables).length
      = (tables.map fun t => (lib.statement d t).length + 3).sum := by
  have ending : ";\n\n".length = 3 := rfl
  induction tables with
  | nil => rfl
  | cons t tables ih =>
      rw [statements] at ih ⊢
      rw [List.map_cons, String.join_cons, String.length_append, String.length_append, ending, ih,
        List.map_cons, List.sum_cons]

/-- Tables whose columns have foreign keys added behind theirs, whatever the order in which they are
created, have the same statements only if no foreign key was added.
-/
theorem Library.CreatesTables.withKeys_eq_self (creates : lib.CreatesTables) (d : Dialect)
    {tables arranged arranged' : List SqlTable} {keys : String → String → List KeyTarget}
    (added : ∀ t ∈ tables, ∀ c ∈ t.columns, c.keys <+: keys t.name c.name)
    (perm : arranged.Perm tables)
    (perm' : arranged'.Perm (tables.map fun t => t.withKeys (keys t.name)))
    (same : statements lib d arranged' = statements lib d arranged)
    : ∀ t ∈ tables, t.withKeys (keys t.name) = t := by
  have lengths : (tables.map fun t => (lib.statement d (t.withKeys (keys t.name))).length + 3).sum
      = (tables.map fun t => (lib.statement d t).length + 3).sum := by
    have length := congrArg String.length same
    rwa [length_statements, length_statements, (perm.map _).sum_eq, (perm'.map _).sum_eq,
      List.map_map] at length
  by_contra other
  push Not at other
  refine absurd lengths.symm (List.sum_lt_sum _ _ (fun t ht => ?_) ?_).ne
  · by_cases unchanged : t.withKeys (keys t.name) = t
    · rw [unchanged]
    · have longer := creates.writes_keys d t _ (added t ht) unchanged
      omega
  · obtain ⟨t, ht, changed⟩ := other
    have longer := creates.writes_keys d t _ (added t ht) changed
    exact ⟨t, ht, by omega⟩

end SchemaMarkup.Sql
