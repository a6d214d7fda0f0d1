import SchemaMarkup.Markup.Constraint
import SchemaMarkup.Text.Order
import SchemaMarkup.Vocabulary.Inflection
import SchemaMarkup.Vocabulary.Primitive

/-! Finding the table a field refers to, from its inline reference, its type or its name, and
giving every field of a schema the type that follows.
-/

namespace SchemaMarkup

open Text

/-- A field name without the suffix that marks a reference. Spellings of a key and names
that are nothing but the suffix refer to no table.
-/
def Conventions.referenceStem? (c : Conventions) (fieldName : String) : Option String :=
  let suffix := c.keys.suffix
  if c.isKey fieldName || !endsWith (lower fieldName) (lower suffix) || suffix = ""
  then none
  else nonempty? (some (dropLast fieldName suffix.length))

/-- The nonempty ends of a list, the longest first. -/
def trailing {α : Type} : List α → List (List α)
  | [] => []
  | a :: as => (a :: as) :: trailing as

/-- The nonempty trailing parts of a stem at its underscores, the stem itself first. -/
def trailingParts (stem : String) : List String :=
  ((trailing (splitOn '_' stem)).map ("_".intercalate ·)).filter (· ≠ "")

/-- The table that a name spells, exactly if possible and else without regard to case. -/
def spelledTable? (tables : List String) (name : String) : Option String :=
  let small := lower name
  (tables.find? (· = name)).or (tables.find? (lower · = small))

/-- The table that a name means: as it is spelled, else by a singular or plural form. -/
def meantTable? (tables : List String) (name : String) : Option String :=
  let forms := wordForms name
  nonempty? ((spelledTable? tables name).or (tables.find? (hasForm forms)))

/-- The table that the longest trailing part of a stem means; tables are tried in order. -/
def referencedTable? (stem : String) (tables : List String) : Option String :=
  (trailingParts stem).findSome? (meantTable? (sorted tables))

namespace Conventions

/-- The table that a field name refers to by its suffix. -/
def tableOfName? (c : Conventions) (fieldName : String) (tables : List String)
    : Option String :=
  (c.referenceStem? fieldName).bind (referencedTable? · tables)

/-- The type that follows for a field: the target of its inline reference, else the table its
type already names, else the table its name refers to, else its primitive type.
-/
def inferType (c : Conventions) (name type : String) (tables : List String)
    (inlineTarget : Option String) : Except Error String :=
  match nonempty? inlineTarget with
  | some target => .ok target
  | none =>
    if type ∈ tables then .ok type
    else match c.tableOfName? name tables with
      | some table => .ok table
      | none => (c.fieldPrimitive name type).map Primitive.name

end Conventions

/-- The field with the type that follows for it. -/
def Field.withInferredType (c : Conventions) (tables : List String) (f : Field)
    : Except Error Field := do
  let type ← c.inferType f.name f.type tables f.inlineTarget?
  return { f with type }

/-- The schema with the type of every field replaced by the one that follows for it. -/
def Schema.withInferredTypes (c : Conventions) (s : Schema) : Except Error Schema := do
  let tables ← s.tables.mapM fun t => do
    let fields ← t.fields.mapM (Field.withInferredType c s.tableNames)
    return { t with fields }
  return { s with tables }

end SchemaMarkup
