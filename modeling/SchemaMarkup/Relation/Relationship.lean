import SchemaMarkup.Schema.Basic
import SchemaMarkup.Vocabulary.Primitive

/-! The identity of relationships. Two references are the same relationship if they join the
same fields, whichever side is written first and however a key is spelled.
-/

namespace SchemaMarkup

/-- What identifies a relationship: the referring field and the field referred to, the latter
with all spellings of a key made equal.
-/
structure Relationship where
  sourceTable : String
  sourceField : String
  targetTable : String
  targetField : String
deriving DecidableEq, Repr, Inhabited

/-- The relationship between a source and a target field, or the one read backwards. -/
def Relationship.between (c : Conventions) (backwards : Bool)
    (sourceTable sourceField targetTable targetField : String) : Relationship :=
  if backwards then ⟨targetTable, targetField, sourceTable, c.unifyKey sourceField⟩
  else ⟨sourceTable, sourceField, targetTable, c.unifyKey targetField⟩

/-- The relationship a reference states; a one-to-many reference is read backwards. -/
def Ref.relationship (c : Conventions) (r : Ref) : Relationship :=
  .between c (r.cardinality = .oneToMany) r.sourceTable r.sourceField r.targetTable r.targetField

end SchemaMarkup
