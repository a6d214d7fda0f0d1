import SchemaMarkup.Schema.Basic
import SchemaMarkup.Markup.Literal
import SchemaMarkup.Markup.Name
import SchemaMarkup.Markup.Scan

/-! The bracketed part of a field line: how it is cut into constraints, and the two kinds of
constraint that mean something to the library, notes and inline references.
-/

namespace SchemaMarkup.Markup

open Text

/-- Where a cut may not be made: nowhere, inside a quoted string, or between triple quotes. -/
inductive Quoting where
  | plain
  | quoted (quote : Char)
  | block
deriving DecidableEq, Repr

/-- The parts of a text of which the start of the first part has been read and is held in
reverse. A separator cuts only outside quotes; inside them a backslash protects the next
character.
-/
def partsAfter (isSeparator : Char → Bool) (part : List Char)
    : Quoting → List Char → List (List Char)
  | _, [] => [part.reverse]
  | .plain, '\'' :: '\'' :: '\'' :: cs =>
    partsAfter isSeparator (tripleQuote ++ part) .block cs
  | .block, '\'' :: '\'' :: '\'' :: cs =>
    partsAfter isSeparator (tripleQuote ++ part) .plain cs
  | .quoted q, '\\' :: c :: cs =>
    partsAfter isSeparator (c :: '\\' :: part) (.quoted q) cs
  | .block, c :: cs => partsAfter isSeparator (c :: part) .block cs
  | .quoted q, c :: cs =>
    -- A closing quote may be the separator itself, and then it cuts.
    if c = q then
      if isSeparator c then part.reverse :: partsAfter isSeparator [] .plain cs
      else partsAfter isSeparator (c :: part) .plain cs
    else partsAfter isSeparator (c :: part) (.quoted q) cs
  | .plain, c :: cs =>
    if Literal.isQuote c then partsAfter isSeparator (c :: part) (.quoted c) cs
    else if isSeparator c then part.reverse :: partsAfter isSeparator [] .plain cs
    else partsAfter isSeparator (c :: part) .plain cs

/-- The last part ends with the text. -/
theorem partsAfter_nil (isSeparator : Char → Bool) (part : List Char) (quoting : Quoting)
    : partsAfter isSeparator part quoting [] = [part.reverse] := by
  rw [partsAfter]

/-- The nonempty trimmed parts of a text between the separators outside quotes. -/
def splitOutsideQuotes (isSeparator : Char → Bool) (s : String) : List String :=
  (((partsAfter isSeparator [] .plain s.toList).map trim).filter (· ≠ [])).map String.ofList

/-- The nonempty trimmed parts of a text between the commas outside quotes. -/
def splitCommas (s : String) : List String :=
  splitOutsideQuotes (· = ',') s

/-- The value of a note line or note constraint, `Note: …` in any letter case. -/
def noteValue? (s : String) : Option String := do
  let cs ← Scan.keyword ['n', 'o', 't', 'e'] s.toList
  let cs ← Scan.char ':' (Scan.blanks cs)
  if cs.isEmpty then none else some (Literal.decode (String.ofList cs))

/-- An inline reference to a field of another table, names as written. -/
structure InlineRef where
  cardinality : Cardinality
  table : String
  field : String
deriving DecidableEq, Repr

namespace InlineRef

/-- The inline reference a constraint is, `ref: > table.field` in any letter case. -/
def ofConstraint? (constraint : String) : Option InlineRef := do
  let cs ← Scan.keyword ['r', 'e', 'f'] (trim constraint.toList)
  let cs ← Scan.char ':' (Scan.blanks cs)
  match Scan.blanks cs with
  | [] => none
  | c :: cs =>
    let cardinality ← Cardinality.ofSymbol? c
    let ((table, field), cs) ← Scan.fieldPath (Scan.blanks cs)
    if Scan.atEnd cs then
      some ⟨cardinality, String.ofList table, String.ofList field⟩
    else none

/-- The name of the table referred to. -/
def target (r : InlineRef) : String :=
  readName r.table

/-- The constraint that points the reference at another table. -/
def retarget (r : InlineRef) (table : String) : String :=
  "ref: " ++ String.singleton r.cardinality.symbol ++ " " ++ writeName table ++ "." ++ r.field

end InlineRef
end Markup

/-- The table named by the first inline reference among a field's constraints. -/
def Field.inlineTarget? (f : Field) : Option String :=
  f.constraints.findSome? fun c => (Markup.InlineRef.ofConstraint? c).map (·.target)

end SchemaMarkup
