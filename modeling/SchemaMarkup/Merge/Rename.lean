import SchemaMarkup.Markup.Constraint
import SchemaMarkup.OrderedMap

/-! Renaming tables: every place that names a table follows the table's new name. -/

namespace SchemaMarkup

/-- The current names of renamed tables by their earlier names. -/
abbrev Renames := OrderedMap String String

/-- The current name of a table. -/
def Renames.current (m : Renames) (name : String) : String :=
  m.getD name name

/-- The earlier names of a table, in the order in which they were recorded. -/
def Renames.earlier (m : Renames) (name : String) : List String :=
  (m.entries.filter fun (old, new) => new = name && old ≠ name).map Prod.fst

/-- A constraint in which an inline reference follows the name of its target. -/
def renameConstraint (m : Renames) (constraint : String) : String :=
  match Markup.InlineRef.ofConstraint? constraint with
  | none => constraint
  | some r =>
    match m.get? r.target with
    | none => constraint
    | some table => r.retarget table

/-- A field whose type and inline references follow the names of their tables. -/
def Field.rename (m : Renames) (f : Field) : Field :=
  { f with
    type := m.current f.type
    constraints := f.constraints.map (renameConstraint m) }

/-- A field without its inline references. -/
def Field.withoutInlineRefs (f : Field) : Field :=
  { f with
    constraints := f.constraints.filter fun c => (Markup.InlineRef.ofConstraint? c).isNone }

/-- A reference whose ends follow the names of their tables. -/
def Ref.rename (m : Renames) (r : Ref) : Ref :=
  { r with
    sourceTable := m.current r.sourceTable
    targetTable := m.current r.targetTable }

end SchemaMarkup
