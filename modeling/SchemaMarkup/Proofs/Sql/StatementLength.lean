import Mathlib.Algebra.BigOperators.Group.List.Basic
import Mathlib.Algebra.GroupWithZero.Nat
import SchemaMarkup.Proofs.Sql.Library
import SchemaMarkup.Sql.Definition

/-! The length of statements as they are written. Nothing of a statement but its foreign keys
depends on them, and each foreign key that is added makes the statement longer.
-/

namespace SchemaMarkup.Sql

-----------------------------------------------------------------------------------------
-- Parts with their separators
-----------------------------------------------------------------------------------------

/-- The length that parts take up in a statement, each with a separator. -/
def partsLength (parts : List String) : Nat :=
  (parts.map fun p => p.length + 4).sum

@[simp]
theorem partsLength_nil
    : partsLength [] = 0 :=
  rfl

@[simp]
theorem partsLength_cons (p : String) (parts : List String)
    : partsLength (p :: parts) = p.length + 4 + partsLength parts :=
  rfl

@[simp]
theorem partsLength_append (parts more : List String)
    : partsLength (parts ++ more) = partsLength parts + partsLength more := by
  simp [partsLength]

theorem partsLength_eq_zero_iff {parts : List String}
    : partsLength parts = 0 ↔ parts = [] := by
  cases parts with
  | nil => simp
  | cons p parts => simp

theorem partsLength_flatMap {α : Type} (f : α → List String) (as : List α)
    : partsLength (as.flatMap f) = (as.map fun a => partsLength (f a)).sum := by
  induction as with
  | nil => rfl
  | cons a as ih => rw [List.flatMap_cons, partsLength_append, ih, List.map_cons, List.sum_cons]

/-- Parts are joined with one separator less than there are parts, by induction on them. -/
theorem length_intercalate_add (p : String) (parts : List String)
    : (", \n\t".intercalate (p :: parts)).length + 4 = partsLength (p :: parts) := by
  have separator : ", \n\t".length = 4 := rfl
  induction parts generalizing p with
  | nil => simp
  | cons q parts ih =>
      rw [String.intercalate_cons_cons, String.length_append, String.length_append, separator,
        partsLength_cons, ← ih q]
      omega

-----------------------------------------------------------------------------------------
-- One statement
-----------------------------------------------------------------------------------------

/-- The foreign key of a column that leads to a target. -/
def keyClause (d : Dialect) (column : String) (k : KeyTarget) : String :=
  "FOREIGN KEY(" ++ d.writeName column ++ ") REFERENCES " ++ d.writeName k.table
    ++ " (" ++ d.writeName k.column ++ ")"

/-- The parts of the foreign keys that come behind those of a column. -/
def addedClauses (d : Dialect) (keys : String → List KeyTarget) (c : Column) : List String :=
  ((keys c.name).drop c.keys.length).map (keyClause d c.name)

namespace SqlTable

/-- The parts of a statement that come before the foreign keys. -/
def columnParts (d : Dialect) (t : SqlTable) : List String :=
  t.columns.map (Column.definition d) ++ t.primaryKey d

theorem columnParts_withKeys (d : Dialect) (keys : String → List KeyTarget) (t : SqlTable)
    : (t.withKeys keys).columnParts d = t.columnParts d := by
  simp only [columnParts, primaryKey, withKeys, List.map_map, List.filter_map]
  rfl

/-- The length of the statement for a table that has columns. -/
theorem length_definition (d : Dialect) {t : SqlTable} (h : t.columns ≠ [])
    : (t.definition d).length
      = (d.writeName t.name).length + 15 + partsLength (t.columnParts d)
          + partsLength (t.columns.flatMap (Column.foreignKeys d)) := by
  have opening : "CREATE TABLE ".length = 13 := rfl
  have body : " (".length = 2 := rfl
  have first : "\n\t".length = 2 := rfl
  have closing : "\n)".length = 2 := rfl
  obtain ⟨p, parts, split⟩ : ∃ p parts,
      t.columnParts d ++ t.columns.flatMap (Column.foreignKeys d) = p :: parts := by
    refine List.exists_cons_of_ne_nil ?_
    simp [columnParts, h]
  have written : t.definition d
      = "CREATE TABLE " ++ d.writeName t.name ++ " ("
          ++ ("\n\t" ++ ", \n\t".intercalate (p :: parts)) ++ "\n)" := by
    rw [columnParts] at split
    unfold definition
    simp only [split]
  have joined := length_intercalate_add p parts
  rw [← split, partsLength_append] at joined
  simp only [written, String.length_append, opening, body, first, closing]
  rw [← split]
  omega

/-- Foreign keys that are added behind those of columns lengthen the statement for a table by their
parts, and by nothing else.
-/
theorem length_definition_withKeys (d : Dialect) {t : SqlTable} {keys : String → List KeyTarget}
    (added : ∀ c ∈ t.columns, c.keys <+: keys c.name)
    : ((t.withKeys keys).definition d).length
      = (t.definition d).length
          + (t.columns.map fun c => partsLength (addedClauses d keys c)).sum := by
  by_cases none : t.columns = []
  · have same : t.withKeys keys = t := by
      obtain ⟨name, columns⟩ := t
      obtain rfl : columns = [] := none
      rfl
    simp [same, none]
  · have some : (t.withKeys keys).columns ≠ [] := by simpa [withKeys] using none
    have clauses : partsLength ((t.withKeys keys).columns.flatMap (Column.foreignKeys d))
        = partsLength (t.columns.flatMap (Column.foreignKeys d))
          + (t.columns.map fun c => partsLength (addedClauses d keys c)).sum := by
      rw [partsLength_flatMap, partsLength_flatMap, ← List.sum_map_add, withKeys, List.map_map]
      refine congrArg List.sum (List.map_congr_left fun c hc => ?_)
      change partsLength ((keys c.name).map (keyClause d c.name)) = _
      conv_lhs => rw [← List.prefix_iff_eq_append.mp (added c hc)]
      rw [List.map_append, partsLength_append]
      rfl
    rw [length_definition d some, length_definition d none, columnParts_withKeys, clauses]
    change (d.writeName t.name).length + 15 + _ + (_ + _) = _
    omega

/-- Foreign keys that are added behind those of columns make the statement longer. -/
theorem length_definition_lt (d : Dialect) {t : SqlTable} {keys : String → List KeyTarget}
    (added : ∀ c ∈ t.columns, c.keys <+: keys c.name) (changed : t.withKeys keys ≠ t)
    : (t.definition d).length < ((t.withKeys keys).definition d).length := by
  rw [length_definition_withKeys d added]
  refine Nat.lt_add_of_pos_right (Nat.pos_of_ne_zero fun none => changed ?_)
  refine withKeys_eq_self_iff.mpr fun c hc => ?_
  have noneOfColumn := List.sum_eq_zero_iff_forall_eq_nat.mp none _ (List.mem_map_of_mem hc)
  have short := List.drop_eq_nil_iff.mp
    (List.map_eq_nil_iff.mp (partsLength_eq_zero_iff.mp noneOfColumn))
  exact ((added c hc).eq_of_length_le short).symm

end SqlTable
end SchemaMarkup.Sql
