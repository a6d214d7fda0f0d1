import SchemaMarkup.Distinct
import SchemaMarkup.Relation.Relationship
import SchemaMarkup.Relation.Lookup

/-! References that fields imply by their types and names. -/

namespace SchemaMarkup

/-- The field that a relationship to a table points at. -/
def Conventions.keyFieldName (c : Conventions) (t : Table) : String :=
  match c.keyField? t with
  | some f => f.name
  | none => c.keys.main

/-- The last declaration of a table. -/
def lastTable? (tables : List Table) (name : String) : Option Table :=
  tables.reverse.find? (·.name = name)

/-- The references of fields to the tables that a rule finds for them, in field order. -/
def impliedRefs (c : Conventions) (tables : List Table) (target? : Field → Option Table)
    : List Ref :=
  tables.flatMap fun t => t.fields.filterMap fun f =>
    (target? f).map fun target =>
      ⟨t.name, f.name, .manyToOne, target.name, c.keyFieldName target⟩

/-- The references that field types imply, without the relationships already covered. -/
def refsOfTypes (c : Conventions) (tables : List Table) (covered : List Ref) : List Ref :=
  distinctBy (Ref.relationship c) (covered.map (Ref.relationship c))
    (impliedRefs c tables fun f => lastTable? tables f.type)

/-- The table a field refers to by its type, or else by its name. -/
def Conventions.impliedTarget? (c : Conventions) (s : Schema) (f : Field) : Option Table :=
  (lastTable? s.tables f.type).or
    ((c.tableOfName? f.name s.tableNames).bind (lastTable? s.tables))

/-- The schema with the references added that its fields imply and it does not declare. -/
def Schema.withImpliedRefs (c : Conventions) (s : Schema) : Schema :=
  let declared := s.refs.map (Ref.relationship c)
  let implied := impliedRefs c s.tables (c.impliedTarget? s)
  { s with refs := s.refs ++ distinctBy (Ref.relationship c) declared implied }

end SchemaMarkup
