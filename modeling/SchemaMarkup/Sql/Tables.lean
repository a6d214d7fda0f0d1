import SchemaMarkup.Distinct
import SchemaMarkup.Relation.Lookup
import SchemaMarkup.Sql.Library

/-! The SQL tables of a schema. Key fields become primary keys, and references and
fields typed as a table become foreign keys where the field referred to exists. Of repeated
declarations the first counts.
-/

namespace SchemaMarkup.Sql

/-- A field that refers to another field. -/
structure KeyLink where
  sourceTable : String
  sourceField : String
  targetTable : String
  targetField : String
deriving DecidableEq, Repr, Inhabited

-----------------------------------------------------------------------------------------
-- Links between fields, before they are written as keys
-----------------------------------------------------------------------------------------

namespace KeyLink

/-- The link that a reference makes; a one-to-many reference is read backwards. -/
def ofRef (r : Ref) : KeyLink :=
  match r.cardinality with
  | .oneToMany => ⟨r.targetTable, r.targetField, r.sourceTable, r.sourceField⟩
  | _ => ⟨r.sourceTable, r.sourceField, r.targetTable, r.targetField⟩

/-- The link that the type of a field makes to the key of the table it names. -/
def ofType? (c : Conventions) (s : Schema) (t : Table) (f : Field) : Option KeyLink := do
  let target ← s.table? f.type
  let key ← c.keyField? target
  return ⟨t.name, f.name, target.name, key.name⟩

/-- Whether the first declaration of the target table has the target field. -/
def hasTarget (s : Schema) (l : KeyLink) : Bool :=
  (s.table? l.targetTable).any (·.declares l.targetField)

/-- The written form of the target of a link. -/
def targetText (l : KeyLink) : String :=
  l.targetTable ++ "." ++ l.targetField

end KeyLink

/-- The links of a schema that lead to a field: those of references, then those of types. -/
def keyLinks (c : Conventions) (s : Schema) : List KeyLink :=
  let ofTypes := s.tables.flatMap fun t => t.fields.filterMap (KeyLink.ofType? c s t)
  (s.refs.map KeyLink.ofRef ++ ofTypes).filter (·.hasTarget s)

-----------------------------------------------------------------------------------------
-- Columns and tables
-----------------------------------------------------------------------------------------

section

variable (lib : Library)

/-- The foreign keys of a field, each written target once. -/
def keysOf (links : List KeyLink) (table field : String) : List KeyTarget :=
  let own := links.filter fun l => l.sourceTable = table && l.sourceField = field
  (own.map KeyLink.targetText).eraseDups.map lib.target

/-- The column of a field. -/
def columnOf (c : Conventions) (s : Schema) (links : List KeyLink) (table : String)
    (f : Field) : Except Error Column := do
  let type ←
    if s.declares f.type then pure .unique else c.fieldPrimitive f.name f.type
  return {
    name := f.name
    type
    isPrimaryKey := c.isKey f.name
    keys := keysOf lib links table f.name }

/-- A table of columns with names that are not refused. -/
def tableOf (name : String) (columns : List Column) : Except Error SqlTable := do
  lib.check (columns.map Column.name)
  return ⟨name, columns⟩

/-- The SQL tables of a schema, in declaration order. -/
def tablesOf (c : Conventions) (s : Schema) : Except Error (List SqlTable) :=
  let links := keyLinks c s
  (distinctBy Table.name [] s.tables).mapM fun t => do
    let columns ← (distinctBy Field.name [] t.fields).mapM (columnOf lib c s links t.name)
    tableOf lib t.name columns

/-- The statements for tables in a dialect, one after the other. -/
def statements (d : Dialect) (tables : List SqlTable) : String :=
  String.join (tables.map fun t => lib.statement d t ++ ";\n\n")

end
end Sql

/-- The statements that create the tables of a schema in a dialect, by a library. The dialect has
to be known only if there is a statement to be written in it.
-/
def Schema.toSqlBy (lib : Sql.Library) (s : Schema) (dialect : String) : Except Error String := do
  let tables ← Sql.tablesOf lib .standard s
  match ← lib.arrange tables with
  | [] => return ""
  | t :: ts => return Sql.statements lib (← Sql.Dialect.ofName dialect) (t :: ts)

end SchemaMarkup
