import SchemaMarkup.Conventions.Document
import SchemaMarkup.Relation.Lookup

/-! Answers from a document that may state its conventions only in part. Each question needs no
more than the settings that it looks at, and it fails at the first of them that is missing or is
of another kind.
-/

namespace SchemaMarkup.Conventions

open Text

/-- The strings of a setting. A single string stands for its characters. -/
def Setting.items : Setting → List String
  | .string s => s.toList.map String.singleton
  | .strings ss => ss

/-- Whether a setting holds a string: as one of several, or as a part of a single one. -/
def Setting.holds (spelling : String) : Setting → Bool
  | .string s => isPartOf spelling s
  | .strings ss => decide (spelling ∈ ss)

/-- The setting of a key in a part of a document. -/
def Entry.need (key : String) : Entry → Except Error Setting
  | .setting (.string _) => .error .stringForPart
  | .setting (.strings _) | .parts _ => .error .listForPart
  | .part settings =>
    match settings.lookup key with
    | some value => .ok value
    | none => .error (.missingSetting key)

namespace Document

/-- The main spelling of keys and the older ones. -/
def keySpellings (d : Document) : Except Error (String × List String) := do
  let main ← d.identifiers.need "sentinel"
  let older ← d.identifiers.need "legacy"
  match main with
  | .string s => return (s, older.items)
  | .strings _ => throw .listForName

/-- How keys and the fields that refer to them are spelled. -/
def keyNames (d : Document) : Except Error KeyNames := do
  match ← d.identifiers.need "suffix" with
  | .string suffix =>
    let (main, older) ← d.keySpellings
    return { main, suffix, older }
  | .strings _ => throw .listForSuffix

/-- Conventions in which keys are spelled as the document says. -/
def withKeyNames (d : Document) : Except Error Conventions := do
  return { standard with keys := ← d.keyNames }

/-- Whether a field name is the spelling of a key in any case, or ends in the suffix. -/
def resemblesKey (d : Document) (name : String) : Except Error Bool := do
  return (← d.withKeyNames).resemblesKey name

/-- A field name without the suffix that marks a reference. -/
def referenceStem? (d : Document) (name : String) : Except Error (Option String) := do
  return (← d.withKeyNames).referenceStem? name

/-- The type families, each with its settings. -/
def families (d : Document) : Except Error (List Settings) :=
  match d.types with
  | .parts all => .ok all
  | .setting (.string "") | .setting (.strings []) | .part [] => .ok []
  -- The members of anything else are strings.
  | _ => .error .stringForPart

/-- The first family for whose spellings a condition holds. -/
def family? (p : Setting → Bool) : List Settings → Except Error (Option Settings)
  | [] => .ok none
  | family :: families => do
    if p (← (Entry.part family).need "spellings") then return some family
    family? p families

/-- The primitive type that a family is named after. -/
def familyPrimitive (family : Settings) : Except Error Primitive := do
  match ← (Entry.part family).need "name" with
  | .string name =>
    match Primitive.ofName? name with
    | some p => return p
    | none => throw (.unknownPrimitive name)
  | .strings names => throw (.primitiveList names)

/-- The primitive type of a type as written: by its exact spelling, else by a part of it, else
text.
-/
def primitiveOf (d : Document) (type : String) : Except Error Primitive := do
  let spelling := bareType type
  let families ← d.families
  match ← family? (·.holds spelling) families with
  | some family => familyPrimitive family
  | none =>
    match ← family? (·.items.any (isPartOf · spelling)) families with
    | some family => familyPrimitive family
    | none => return .text

end Document
end SchemaMarkup.Conventions
