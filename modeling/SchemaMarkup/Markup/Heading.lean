import SchemaMarkup.Markup.Name
import SchemaMarkup.Markup.Scan

/-! The lines that open a block: headings of tables and of table groups. Keywords may be
written in any letter case.
-/

namespace SchemaMarkup.Markup

/-- The alias of a table heading, ` as name`, and what remains. -/
def scanAlias (cs : List Char) : Option (List Char) := do
  let cs ← Scan.someBlanks cs
  let cs ← Scan.keyword ['a', 's'] cs
  let cs ← Scan.someBlanks cs
  let (_, cs) ← Scan.run Text.isWord cs
  return cs

/-- The table named by a heading `Table name as alias [settings]`, of which alias and settings
may be missing.
-/
def tableHeading? (line : String) : Option String := do
  let cs ← Scan.keyword ['t', 'a', 'b', 'l', 'e'] line.toList
  let cs ← Scan.someBlanks cs
  let (name, cs) ← Scan.dottedName cs
  if Scan.atEnd (Scan.settings ((scanAlias cs).getD cs)) then
    some (readName (String.ofList name))
  else none

/-- The name and color given by the heading of a table group. -/
structure GroupHeading where
  name : String
  color : Option String
deriving DecidableEq, Repr

/-- A color setting ` [color: value]`, its value a word with or without a number sign, and
what remains.
-/
def scanColor (cs : List Char) : Option (String × List Char) := do
  let cs ← Scan.char '[' (Scan.blanks cs)
  let cs ← Scan.keyword ['c', 'o', 'l', 'o', 'r'] (Scan.blanks cs)
  let cs ← Scan.char ':' (Scan.blanks cs)
  let cs := Scan.blanks cs
  let sign := cs.takeWhile (· = '#')
  let sign := sign.take 1
  let (word, cs) ← Scan.run Text.isWord (cs.drop sign.length)
  let cs ← Scan.char ']' (Scan.blanks cs)
  return (String.ofList (sign ++ word), cs)

/-- The group named by a heading `TableGroup name [color: value]`, of which the color may be
missing.
-/
def groupHeading? (line : String) : Option GroupHeading := do
  let cs ← Scan.keyword ['t', 'a', 'b', 'l', 'e', 'g', 'r', 'o', 'u', 'p'] line.toList
  let cs ← Scan.someBlanks cs
  let (name, cs) ← Scan.name cs
  let (color, cs) :=
    match scanColor cs with
    | some (color, cs) => (some color, cs)
    | none => (none, cs)
  if Scan.atEnd cs then some ⟨readName (String.ofList name), color⟩ else none

end SchemaMarkup.Markup
