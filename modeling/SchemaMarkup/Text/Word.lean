import SchemaMarkup.Text.Ranges
import SchemaMarkup.Text.WordRanges

/-! Word characters: what an unquoted name may be made of. -/

namespace SchemaMarkup.Text

/-- Letters, decimal, digit and numeric characters, and the underscore. -/
def isWord (c : Char) : Bool :=
  c.isAlphanum || c == '_' || (128 ≤ c.toNat && inRanges wordRanges c.toNat)

/-- Every ASCII letter and digit is a word character, by the first test. -/
theorem isWord_of_isAlphanum {c : Char} (h : c.isAlphanum = true)
    : isWord c = true := by
  simp [isWord, h]

/-- Whether the string is a word: at least one character, word characters only. -/
def isWordText (s : String) : Bool :=
  !s.isEmpty && s.toList.all isWord

end SchemaMarkup.Text
