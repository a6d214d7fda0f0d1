/-! Looking for one text inside another. -/

namespace SchemaMarkup.Text

/-- Whether the first text occurs somewhere in the second. -/
def occursIn (part : List Char) : List Char → Bool
  | [] => part.isEmpty
  | c :: cs => part.isPrefixOf (c :: cs) || occursIn part cs

/-- Whether the first string occurs somewhere in the second. -/
def isPartOf (part s : String) : Bool :=
  occursIn part.toList s.toList

/-- Whether a string ends with another. -/
def endsWith (s ending : String) : Bool :=
  ending.toList.isSuffixOf s.toList

/-- Whether a string ends with one of the given endings. -/
def endsWithAny (s : String) (endings : List String) : Bool :=
  endings.any (endsWith s)

/-- A string without its last characters. -/
def dropLast (s : String) (n : Nat) : String :=
  String.ofList (s.toList.take (s.toList.length - n))

/-- The parts of a string between the occurrences of a separating character. -/
def splitOn (separator : Char) (s : String) : List String :=
  (s.toList.splitOn separator).map String.ofList

end SchemaMarkup.Text
