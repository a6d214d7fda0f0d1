import SchemaMarkup.Additions.Basic
import SchemaMarkup.Distinct
import SchemaMarkup.Text.Blank

/-! What a proposed schema adds to a base schema. Only names count: a table or field that the
base has already is no addition, however else it changed, and of repeated names the first
declaration counts.
-/

namespace SchemaMarkup

/-- The tables of a schema, each name once, by its first declaration. -/
def Schema.distinctTables (s : Schema) : List Table :=
  distinctBy Table.name [] s.tables

/-- Fields, each name once, by its first declaration. -/
def distinctFields (fields : List Field) : List Field :=
  distinctBy Field.name [] fields

/-- The fields of a proposed table that the base table lacks. -/
def fieldsBeyond (base proposed : Table) : List Field :=
  distinctFields (proposed.fields.filter fun f => !base.declares f.name)

namespace Additions

/-- What a proposed table adds to a base schema, if it adds anything. -/
def addition? (base : Schema) (t : Table) : Option (AdditionKind × List Field) :=
  match base.table? t.name with
  | none => some (.newTables, distinctFields t.fields)
  | some old =>
    match fieldsBeyond old t with
    | [] => none
    | f :: fs => some (.newFields, f :: fs)

/-- The additions of one kind that proposed tables make. -/
def additionsTo (base proposed : Schema) (s : AdditionKind) : OrderedMap String (List Field) :=
  .ofList (proposed.distinctTables.filterMap fun t =>
    match addition? base t with
    | some (s', fields) => if s' = s then some (t.name, fields) else none
    | none => none)

/-- The descriptions that proposed tables with additions carry in their notes. -/
def additionNotes (base proposed : Schema) : OrderedMap String String :=
  .ofList (proposed.distinctTables.filterMap fun t =>
    if (addition? base t).isSome then (Text.nonempty? t.note).map ((t.name, ·)) else none)

/-- What a proposed schema adds to a base schema. -/
def between (base proposed : Schema) : Additions where
  newTables := additionsTo base proposed .newTables
  newFields := additionsTo base proposed .newFields
  descriptions := additionNotes base proposed

end Additions
end SchemaMarkup
