import SchemaMarkup.Proofs.Markup.LogicalLines

/-! Dropping repeated lines, whatever the text. What is left are some of its logical lines, none of
them joined or taken apart, and nothing more is dropped from them.
-/

namespace SchemaMarkup.Markup

variable {c : Conventions}

/-- Nothing is added to lines when repeats are left out, by induction. -/
theorem linesWithoutRepeats_sublist (block : Option OpenTable) (keys : List Relationship)
    (lines : List (List Char))
    : (linesWithoutRepeats c block keys lines).Sublist lines := by
  fun_induction linesWithoutRepeats c block keys lines <;> simp_all

/-- Lines that are left lead to the same table blocks and relationships as all of them, since those
that are dropped lead nowhere else. So each of them is left again, by induction on the lines.
-/
theorem linesWithoutRepeats_idempotent (block : Option OpenTable) (keys : List Relationship)
    (lines : List (List Char))
    : linesWithoutRepeats c block keys (linesWithoutRepeats c block keys lines)
      = linesWithoutRepeats c block keys lines := by
  fun_induction linesWithoutRepeats c block keys lines with
  | case1 block keys => rfl
  | case2 block keys line lines key hk known ih => exact ih
  | case3 block keys line lines key hk new ih =>
      simp only [linesWithoutRepeats, hk, if_neg new, ih]
  | case4 block keys line lines hk hs ih => exact ih
  | case5 block keys line lines hk next hs ih =>
      simp only [linesWithoutRepeats, hk, hs, ih]

/-- The first line is left, since there is nothing that it could repeat. -/
theorem linesWithoutRepeats_ne_nil {lines : List (List Char)} (h : lines ≠ [])
    : linesWithoutRepeats c none [] lines ≠ [] := by
  obtain ⟨line, lines, rfl⟩ := List.exists_cons_of_ne_nil h
  rw [linesWithoutRepeats]
  cases declaredKey? c line <;> simp [OpenTable.step?]

/-- The logical lines that are left of a text are the logical lines of the text that is left. -/
theorem logicalLines_withoutRepeats (text : String)
    : logicalLines (withoutRepeats c text).toList
      = linesWithoutRepeats c none [] (logicalLines text.toList) := by
  have left : AreLogical (linesWithoutRepeats c none [] (logicalLines text.toList)) :=
    (areLogical_logicalLines text.toList).sublist (linesWithoutRepeats_sublist none [] _)
  rw [withoutRepeats, String.toList_ofList]
  exact left.logicalLines_intercalate (linesWithoutRepeats_ne_nil (logicalLines_ne_nil _))

/-- Dropping the repeats of a text twice is dropping them once, and the logical lines of what is
left are some of those of the text.
-/
theorem withoutRepeats_idempotent (c : Conventions) (text : String)
    : withoutRepeats c (withoutRepeats c text) = withoutRepeats c text
      ∧ (logicalLines (withoutRepeats c text).toList).Sublist (logicalLines text.toList) := by
  constructor
  · rw [withoutRepeats, logicalLines_withoutRepeats, linesWithoutRepeats_idempotent,
      ← withoutRepeats]
  · rw [logicalLines_withoutRepeats]
    exact linesWithoutRepeats_sublist none [] _

end SchemaMarkup.Markup
