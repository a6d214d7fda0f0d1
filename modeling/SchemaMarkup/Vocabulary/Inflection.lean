import SchemaMarkup.Text.Case
import SchemaMarkup.Text.Search

/-! Singular and plural forms of English words, good enough to recognize a table by the name
of a field that refers to it.
-/

namespace SchemaMarkup

open Text

/-- The singular form of a word. -/
def singular (word : String) : String :=
  let small := lower word
  if endsWith small "ies" && 3 < word.length then dropLast word 3 ++ "y"
  else if endsWithAny small ["sses", "xes", "zes", "ches", "shes", "uses"] then
    dropLast word 2
  else if endsWith small "s" && !endsWithAny small ["ss", "us", "is"] && 1 < word.length then
    dropLast word 1
  else word

/-- Whether the last but one character of a word is a vowel letter. -/
def vowelBeforeLast (word : String) : Bool :=
  match word.toList.reverse with
  | _ :: c :: _ => c = 'a' || c = 'e' || c = 'i' || c = 'o' || c = 'u'
  | _ => false

/-- The plural form of a word. -/
def plural (word : String) : String :=
  let small := lower word
  if endsWith small "y" && 1 < word.length && !vowelBeforeLast small then
    dropLast word 1 ++ "ies"
  else if endsWithAny small ["s", "x", "z", "ch", "sh"] then word ++ "es"
  else word ++ "s"

/-- The lower-case spellings under which a name may be meant: itself, its singular and its
plural.
-/
def wordForms (name : String) : List String :=
  let small := lower name
  [small, singular small, plural small].eraseDups

/-- Whether one of several spellings is one under which a name may be meant. -/
def hasForm (forms : List String) (name : String) : Bool :=
  (wordForms name).any fun v => decide (v ∈ forms)

end SchemaMarkup
