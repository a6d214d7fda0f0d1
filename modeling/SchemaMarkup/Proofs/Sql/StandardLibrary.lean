import SchemaMarkup.Proofs.Sql.Arrangement
import SchemaMarkup.Proofs.Sql.StatementLength
import SchemaMarkup.Proofs.Text.Blank

/-! The library with which schemas are exported does what is relied on. -/

namespace SchemaMarkup.Sql

/-- A written target is cut where it was joined if the name of its column has no dot. -/
theorem KeyTarget.ofText_append (table : String) {column : String} (undotted : '.' ∉ column.toList)
    : ofText (table ++ "." ++ column) = ⟨table, column⟩ := by
  have reversed : (table ++ "." ++ column).toList.reverse
      = column.toList.reverse ++ '.' :: table.toList.reverse := by
    simp
  have plain : ∀ x ∈ column.toList.reverse, decide (x ≠ '.') = true := by
    intro x hx
    refine decide_eq_true fun he => undotted ?_
    exact he ▸ List.mem_reverse.mp hx
  simp only [ofText, reversed, List.takeWhile_append_of_pos plain,
    List.dropWhile_append_of_pos plain]
  simp

theorem checkNames_eq_ok_iff {names : List String}
    : checkNames names = .ok () ↔ "" ∉ names := by
  rw [checkNames]
  split
  · rename_i blank
    exact iff_of_false nofun (not_not_intro blank)
  · rename_i named
    exact iff_of_true rfl named

/-- The statement for a table begins and ends with visible characters. -/
theorem SqlTable.isTrimmed_definition (d : Dialect) (t : SqlTable)
    : Text.IsTrimmed (t.definition d).toList := by
  have written : ∃ inner, t.definition d = "C" ++ inner ++ ")" := by
    refine ⟨"REATE TABLE " ++ (d.writeName t.name ++ " (" ++ ?body ++ "\n"), ?_⟩
    rotate_left
    · simp only [definition, String.append_assoc]
      rfl
  obtain ⟨inner, written⟩ := written
  rw [written, String.toList_append, String.toList_append]
  exact Text.isTrimmed_cons_append rfl (Text.getLast_concat (rfl : Text.isBlank ')' = false) [])
    (List.cons_ne_nil _ _)

theorem statement_standard (d : Dialect) (t : SqlTable)
    : Library.standard.statement d t = t.definition d := by
  have feeds (n : ℕ) : ∀ c ∈ List.replicate n '\n', Text.isBlank c = true := by
    intro c hc
    rw [List.eq_of_mem_replicate hc]
    rfl
  have padded : (Library.standard.create d t).toList
      = List.replicate 1 '\n' ++ (t.definition d).toList ++ List.replicate 2 '\n' := by
    simp [Library.standard]
  rw [Library.statement, Text.trimmed, padded,
    (t.isTrimmed_definition d).trim_padded (feeds 1) (feeds 2), String.ofList_toList]

theorem buildsTables_standard
    : Library.standard.BuildsTables where
  reads_target table _ undotted := KeyTarget.ofText_append table undotted
  accepts_iff _ _ := checkNames_eq_ok_iff

theorem createsTables_standard
    : Library.standard.CreatesTables where
  arranges _ distinct found := exists_arrange_eq_ok distinct found
  writes_keys d t keys added changed := by
    rw [statement_standard, statement_standard]
    exact t.length_definition_lt d added changed

end SchemaMarkup.Sql
