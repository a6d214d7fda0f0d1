import SchemaMarkup.Markup.FieldLine
import SchemaMarkup.Markup.Heading
import SchemaMarkup.Markup.RefLine
import SchemaMarkup.Markup.Token

/-! Statements: what the tokens at the outermost level say. A block belongs to the line before
its opening brace and ends at the matching closing brace; blocks inside it are passed over.
-/

namespace SchemaMarkup.Markup

/-- A line of text inside a block, with its comment. -/
structure BlockLine where
  text : String
  comment : Option String
deriving DecidableEq, Repr

namespace BlockLine

/-- The reference that a line of a table declares. -/
def ref? (l : BlockLine) : Option Ref :=
  Ref.ofLine? l.text

/-- The note that a line gives to its block. -/
def note? (l : BlockLine) : Option String :=
  if l.ref?.isSome then none else noteValue? l.text

/-- The field that a line of a table declares, if it is neither a reference nor a note. -/
def field? (l : BlockLine) : Option Field :=
  if l.ref?.isSome || (noteValue? l.text).isSome then none else Field.ofLine? l.text

/-- The members that a line of a group lists; the comment belongs to the last of them. -/
def members (l : BlockLine) : List Member :=
  if (noteValue? l.text).isSome then []
  else
    let names := (splitCommas l.text).map readName
    names.dropLast.map (⟨·, none⟩) ++ names.getLast?.toList.map (⟨·, l.comment⟩)

end BlockLine

/-- A declaration at the outermost level. -/
inductive Statement where
  | ref (ref : Ref)
  | table (name : String) (body : List BlockLine)
  | group (heading : GroupHeading) (body : List BlockLine)
deriving DecidableEq, Repr

/-- Whether tokens go on with a block. -/
def startsBlock : List Token → Bool
  | .opening _ :: _ => true
  | _ => false

mutual

/-- The lines of a block whose opening brace has been read, and what follows its closing brace,
which is no more than there was. Inner blocks are passed over together with the lines that head
them.
-/
def readBlock (ts : List Token)
    : {block : List BlockLine × List Token // block.2.length ≤ ts.length} :=
  match ts with
  | [] => ⟨([], []), Nat.le_refl 0⟩
  | .closing _ :: ts => ⟨([], ts), Nat.le_succ _⟩
  | .opening _ :: ts =>
    let ⟨rest, skipped⟩ := skipBlock ts
    let ⟨block, read⟩ := readBlock rest
    ⟨block, Nat.le_trans read (Nat.le_succ_of_le skipped)⟩
  | .text _ _ _ :: .opening _ :: ts =>
    let ⟨rest, skipped⟩ := skipBlock ts
    let ⟨block, read⟩ := readBlock rest
    ⟨block, Nat.le_trans read (Nat.le_trans skipped (Nat.le_add_right _ 2))⟩
  | .text s comment _ :: ts =>
    let ⟨(lines, rest), read⟩ := readBlock ts
    ⟨(⟨s, comment⟩ :: lines, rest), Nat.le_succ_of_le read⟩
termination_by 2 * ts.length

/-- What follows the closing brace of a block whose opening brace has been read. -/
def skipBlock (ts : List Token) : {rest : List Token // rest.length ≤ ts.length} :=
  let ⟨(_, rest), read⟩ := readBlock ts
  ⟨rest, read⟩
termination_by 2 * ts.length + 1

end

namespace Statement

/-- The declaration made by a block with the given heading line, if it is a known one. -/
def ofBlock? (heading : String) (body : List BlockLine) : Option Statement :=
  match tableHeading? heading with
  | some name => some (table name body)
  | none => (groupHeading? heading).map (group · body)

/-- The declarations of the tokens from the outermost level on. Lines that declare nothing,
blocks under an unknown heading and closing braces are passed over.
-/
def ofTokens : List Token → List Statement
  | [] => []
  | .closing _ :: ts => ofTokens ts
  | .opening _ :: ts => ofTokens (skipBlock ts).1
  | .text s _ _ :: ts =>
    match Ref.ofLine? s, ts with
    | some r, ts => ref r :: ofTokens ts
    | none, .opening _ :: ts =>
      (ofBlock? s (readBlock ts).1.1).toList ++ ofTokens (readBlock ts).1.2
    | none, ts => ofTokens ts
termination_by ts => ts.length
decreasing_by
  all_goals simp_wf
  · have h := (skipBlock ts).2
    omega
  · have h := (readBlock ts).2
    omega

/-- No tokens make no statements. -/
theorem ofTokens_nil
    : ofTokens [] = [] := by
  rw [ofTokens]

/-- The references that a declaration makes: itself, or the reference lines of a table. -/
def refs : Statement → List Ref
  | ref r => [r]
  | table _ body => body.filterMap BlockLine.ref?
  | group _ _ => []

/-- The table that a declaration makes. -/
def table? : Statement → Option Table
  | table name body => some {
      name
      fields := body.filterMap BlockLine.field?
      note := body.findSome? BlockLine.note? }
  | _ => none

/-- The group that a declaration makes; of several notes the last one counts. -/
def group? : Statement → Option TableGroup
  | group heading body => some {
      name := heading.name
      members := body.flatMap BlockLine.members
      note := body.reverse.findSome? BlockLine.note?
      color := heading.color }
  | _ => none

end Statement
end SchemaMarkup.Markup
