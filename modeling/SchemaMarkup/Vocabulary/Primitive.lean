import SchemaMarkup.Conventions.Basic
import SchemaMarkup.Error
import SchemaMarkup.Schema.Basic
import SchemaMarkup.Text.Case
import SchemaMarkup.Text.Search

/-! The five primitive types and the way a type as written is assigned to one of them.
Key fields are unique whatever type is written beside them.
-/

namespace SchemaMarkup

open Text

/-- The types a field can have besides the name of a table. -/
inductive Primitive where
  | text
  | number
  | yesNo
  | date
  | unique
deriving DecidableEq, Repr, Inhabited

namespace Primitive

/-- How a primitive type is written. -/
def name : Primitive → String
  | text => "text"
  | number => "number"
  | yesNo => "Y_N"
  | date => "date"
  | unique => "unique"

/-- All primitive types. -/
def all : List Primitive :=
  [text, number, yesNo, date, unique]

/-- The primitive type that is written so. -/
def ofName? (name : String) : Option Primitive :=
  all.find? (·.name = name)

/-- Reading a written primitive type gives it back, case by case. -/
@[simp]
theorem ofName?_name (p : Primitive)
    : ofName? p.name = some p := by
  cases p <;> decide

end Primitive

/-- Whether a type is written like one of the primitive types. -/
def isPrimitiveName (type : String) : Bool :=
  (Primitive.ofName? type).isSome

/-- Whether a character ends the spelling of a type and starts a length, a precision or
another modifier.
-/
def startsModifier (c : Char) : Bool :=
  isBlank c || c = '(' || c = '['

/-- The lower-case spelling of a type without its modifiers. -/
def bareType (type : String) : String :=
  lower (String.ofList ((trim type.toList).takeWhile (!startsModifier ·)))

namespace Conventions

/-- The family that lists a spelling. -/
def exactFamily? (c : Conventions) (spelling : String) : Option TypeFamily :=
  c.families.find? fun f => decide (spelling ∈ f.spellings)

/-- The first family of which some spelling is part of the given one. -/
def similarFamily? (c : Conventions) (spelling : String) : Option TypeFamily :=
  c.families.find? fun f => f.spellings.any (isPartOf · spelling)

/-- The primitive type of a type as written: by its exact spelling, else by a part of it,
else text. It fails only if the chosen family is not named after a primitive type.
-/
def primitiveOf (c : Conventions) (type : String) : Except Error Primitive :=
  let spelling := bareType type
  match (c.exactFamily? spelling).or (c.similarFamily? spelling) with
  | none => .ok .text
  | some family =>
    match Primitive.ofName? family.name with
    | some p => .ok p
    | none => .error (.unknownPrimitive family.name)

/-- Whether some family has a spelling that is part of the given type's. -/
def isKnownType (c : Conventions) (type : String) : Bool :=
  (c.similarFamily? (bareType type)).isSome

/-- Whether a field name is the spelling of a key in any case, or ends in the suffix. -/
def resemblesKey (c : Conventions) (name : String) : Bool :=
  c.isKey (lower name) || endsWith (lower name) (lower c.keys.suffix)

/-- The main spelling for every spelling of a key, and any other name itself. -/
def unifyKey (c : Conventions) (name : String) : String :=
  if c.isKey name then c.keys.main else name

/-- The field that holds a table's own key. -/
def keyField? (c : Conventions) (t : Table) : Option Field :=
  t.fields.find? fun f => c.isKey f.name

/-- The primitive type of a field: unique for keys, else by its written type. -/
def fieldPrimitive (c : Conventions) (name type : String) : Except Error Primitive :=
  if c.resemblesKey name then .ok .unique else c.primitiveOf type

end Conventions
end SchemaMarkup
