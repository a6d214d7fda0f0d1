import SchemaMarkup.Schema.Basic
import SchemaMarkup.Markup.Literal
import SchemaMarkup.Markup.Name

/-! Writing schemas as text: tables, then references, then groups, with a blank line between
them and two spaces before everything inside a block.
-/

namespace SchemaMarkup

namespace Markup

/-- The space before a line inside a block. -/
def indent : String :=
  "  "

/-- The note constraint or note line of a text. -/
def noteText (note : String) : String :=
  "Note: " ++ Literal.encode note

/-- Nonempty sections with a blank line between them and a line end after them. -/
def paragraphs (sections : List String) : String :=
  match sections.filter (· ≠ "") with
  | [] => ""
  | s :: ss => "\n\n".intercalate (s :: ss) ++ "\n"

end Markup

open Markup

/-- The constraints of a field as written, its note last. -/
def Field.allConstraints (f : Field) : List String :=
  f.constraints ++ (f.note.map noteText).toList

/-- The line that declares a field, without indentation. -/
def Field.toText (f : Field) : String :=
  let bracketed :=
    match f.allConstraints with
    | [] => ""
    | c :: cs => " [" ++ ", ".intercalate (c :: cs) ++ "]"
  writeName f.name ++ " " ++ f.type ++ bracketed

/-- The block that declares a table. -/
def Table.toText (t : Table) : String :=
  "\n".intercalate (
    ("Table " ++ writeName t.name ++ " \x7b")
      :: (t.note.map fun note => indent ++ noteText note).toList
      ++ t.fields.map (fun f => indent ++ f.toText)
      ++ ["\x7d"])

/-- The line that declares a reference. -/
def Ref.toText (r : Ref) : String :=
  "Ref: " ++ writeName r.sourceTable ++ "." ++ writeName r.sourceField
    ++ " " ++ String.singleton r.cardinality.symbol ++ " "
    ++ writeName r.targetTable ++ "." ++ writeName r.targetField

/-- The line that lists a member of a group, without indentation. -/
def Member.toText (m : Member) : String :=
  match m.comment with
  | none | some "" => writeName m.table
  | some comment => writeName m.table ++ " // " ++ comment

/-- The block that declares a group. Its name is always quoted and its note is written
between triple quotes as it is.
-/
def TableGroup.toText (g : TableGroup) : String :=
  let color :=
    match g.color with
    | none | some "" => ""
    | some color => " [color: " ++ color ++ "]"
  "\n".intercalate (
    ("TableGroup \"" ++ g.name ++ "\"" ++ color ++ " \x7b")
      :: g.members.map (fun m => indent ++ m.toText)
      ++ (g.note.map fun note => indent ++ "Note: '''" ++ note ++ "'''").toList
      ++ ["\x7d"])

/-- The text of a schema. -/
def Schema.toText (s : Schema) : String :=
  paragraphs [
    "\n\n".intercalate (s.tables.map Table.toText),
    "\n".intercalate (s.refs.map Ref.toText),
    "\n\n".intercalate (s.groups.map TableGroup.toText)]

/-- The tables of a schema with their notes alone. -/
def Schema.outline (s : Schema) : String :=
  paragraphs ["\n\n".intercalate (s.tables.map fun t => { t with fields := [] }.toText)]

end SchemaMarkup
