/-! Putting strings in order. -/

namespace SchemaMarkup.Text

/-- Strings in the order of their code points; the order is that of the first difference. -/
def sorted (names : List String) : List String :=
  names.mergeSort fun a b => decide (a ≤ b)

end SchemaMarkup.Text
