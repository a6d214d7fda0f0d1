import SchemaMarkup.Markup.Constraint

/-! Field lines: `name type [constraint, constraint]`, of which the bracketed part may be
missing. A note among the constraints becomes the note of the field.
-/

namespace SchemaMarkup

namespace Markup

open Text

/-- The three written parts of a field line. -/
structure FieldParts where
  name : List Char
  type : List Char
  constraints : List Char
deriving DecidableEq, Repr

/-- The text of a bracketed part that was opened, if its closing bracket ends the line. -/
def closedBracket? (cs : List Char) : Option (List Char) :=
  -- One line feed may follow the bracket.
  match cs.reverse with
  | ']' :: r => some r.reverse
  | '\n' :: ']' :: r => some r.reverse
  | _ => none

/-- The parts of a field line. The type runs up to the first opening bracket; it may be left
out only where at least two white-space characters follow the name.
-/
def fieldParts? (cs : List Char) : Option FieldParts := do
  let (name, cs) ← Scan.name cs
  let gap := cs.takeWhile isBlank
  let type := (cs.dropWhile isBlank).takeWhile (· ≠ '[')
  if gap.isEmpty || (type.isEmpty && gap.length < 2) then none
  else match (cs.dropWhile isBlank).dropWhile (· ≠ '[') with
    | [] => some ⟨name, trim type, []⟩
    | _ :: cs => (closedBracket? cs).map fun constraints => ⟨name, trim type, constraints⟩

/-- The last note among constraints. -/
def lastNote (constraints : List String) : Option String :=
  constraints.reverse.findSome? noteValue?

end Markup

open Markup

/-- The field that a line declares; a line that starts with the bare name `Note` declares
none.
-/
def Field.ofLine? (line : String) : Option Field := do
  let parts ← fieldParts? line.toList
  if parts.name = ['N', 'o', 't', 'e'] then none
  else
    let constraints := splitCommas (String.ofList parts.constraints)
    return {
      name := readName (String.ofList parts.name)
      type := String.ofList parts.type
      note := lastNote constraints
      constraints := constraints.filter fun c => (noteValue? c).isNone }

end SchemaMarkup
