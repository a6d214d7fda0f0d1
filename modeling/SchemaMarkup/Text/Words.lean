import SchemaMarkup.Text.Blank

/-! Cutting a text into its words, the longest parts without white space. -/

namespace SchemaMarkup.Text

/-- The words that follow an already read part of the first one, which is held in reverse. -/
def wordsAfter (word : List Char) : List Char → List (List Char)
  | [] => if word.isEmpty then [] else [word.reverse]
  | c :: cs =>
    if !isBlank c then wordsAfter (c :: word) cs
    else if word.isEmpty then wordsAfter [] cs
    else word.reverse :: wordsAfter [] cs

/-- The words of a string. -/
def words (s : String) : List String :=
  (wordsAfter [] s.toList).map String.ofList

end SchemaMarkup.Text
