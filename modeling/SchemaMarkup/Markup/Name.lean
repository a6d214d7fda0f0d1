import SchemaMarkup.Text.Word

/-! Names in markup: a word stands for itself, any other name is put between double quotes. -/

namespace SchemaMarkup.Markup

/-- The characters inside one pair of surrounding double quotes, if there is such a pair. -/
def readNameChars : List Char → List Char
  | '"' :: cs => if cs.getLast? = some '"' then cs.dropLast else '"' :: cs
  | cs => cs

/-- The name that a written name stands for. -/
def readName (written : String) : String :=
  String.ofList (readNameChars written.toList)

/-- The written form of a name. -/
def writeName (name : String) : String :=
  if Text.isWordText name then name else "\"" ++ name ++ "\""

/-- Text between double quotes stands for that text, by the last character. -/
theorem readNameChars_quoted (cs : List Char)
    : readNameChars ('"' :: cs ++ ['"']) = cs := by
  simp [readNameChars]

end SchemaMarkup.Markup
