/-! Sets of characters given by the inclusive ranges of their code points. -/

namespace SchemaMarkup.Text

/-- Whether a code point lies in one of the inclusive ranges. -/
def inRanges (ranges : List (Nat × Nat)) (n : Nat) : Bool :=
  ranges.any fun (first, last) => first ≤ n && n ≤ last

/-- Membership is decided range by range, by the definition of `List.any`. -/
theorem inRanges_iff {ranges : List (Nat × Nat)} {n : Nat}
    : inRanges ranges n = true ↔ ∃ r ∈ ranges, r.1 ≤ n ∧ n ≤ r.2 := by
  simp [inRanges]

end SchemaMarkup.Text
