import SchemaMarkup.Merge.Drafts
import SchemaMarkup.Relation.Lookup

/-! Settling the types of the fields that come from changes, against the tables that a merge
emits.
-/

namespace SchemaMarkup

/-- A field without inline references that lead to no emitted table, and the warning about
the first of them. If the first leads nowhere, all of them are dropped.
-/
def Field.ground (known : List String) (table : String) (f : Field)
    : Field × List MergeNotice :=
  match f.inlineTarget? with
  | none => (f, [])
  | some target =>
    if target ∈ known then (f, [])
    else (f.withoutInlineRefs, [.inlineRefDropped table f.name target])

/-- The warning about a field that got a primitive type although its name refers to a table
or its type is none that is known.
-/
def Conventions.doubts (c : Conventions) (table type : String) (f : Field)
    : List MergeNotice :=
  if isPrimitiveName type && ((c.referenceStem? f.name).isSome || !c.isKnownType f.type) then
    [.typeAmbiguous table f.name f.type type]
  else []

/-- A field with the type that follows for it, and the warnings on the way. -/
def Field.resolve (c : Conventions) (known : List String) (table : String) (f : Field)
    : Except Error (Field × List MergeNotice) := do
  let (f, dropped) := f.ground known table
  let type ← c.inferType f.name f.type known f.inlineTarget?
  return ({ f with type }, dropped ++ c.doubts table type f)

/-- The table of a draft with the types of its pending fields settled, and the warnings on the
way.
-/
def Draft.resolve (c : Conventions) (known : List String) (d : Draft)
    : Except Error (Table × List MergeNotice) := do
  let resolved ← d.table.fields.mapM fun f =>
    if f.name ∈ d.pending.getD [] then f.resolve c known d.name else pure (f, [])
  return ({ d.table with fields := resolved.map Prod.fst }, resolved.flatMap Prod.snd)

end SchemaMarkup
