import SchemaMarkup.Schema.Basic
import SchemaMarkup.Markup.Name
import SchemaMarkup.Markup.Scan

/-! Reference lines: `Ref label: table.field > table.field [settings]`, of which label and
settings may be missing.
-/

namespace SchemaMarkup

namespace Markup

/-- The label after the keyword of a reference line, and what remains. -/
def scanLabel (cs : List Char) : Option (List Char) := do
  let cs ← Scan.someBlanks cs
  let (_, cs) ← Scan.run Text.isWord cs
  return cs

/-- The reference a text starts with, and what remains. -/
def scanRef (cs : List Char) : Option (Ref × List Char) := do
  let cs ← Scan.keyword ['r', 'e', 'f'] cs
  let cs ← Scan.char ':' (Scan.blanks ((scanLabel cs).getD cs))
  let ((sourceTable, sourceField), cs) ← Scan.fieldPath (Scan.blanks cs)
  match Scan.blanks cs with
  | [] => none
  | c :: cs =>
    let cardinality ← Cardinality.ofSymbol? c
    let ((targetTable, targetField), cs) ← Scan.fieldPath (Scan.blanks cs)
    let name (written : List Char) := readName (String.ofList written)
    return (⟨name sourceTable, name sourceField, cardinality,
      name targetTable, name targetField⟩, cs)

end Markup

open Markup

/-- The reference that a line declares. -/
def Ref.ofLine? (line : String) : Option Ref := do
  let (ref, cs) ← scanRef line.toList
  if Scan.atEnd (Scan.settings cs) then some ref else none

end SchemaMarkup
