import SchemaMarkup.Text.Blank

/-! What a schema description says: tables with their fields, relationships between fields,
and colored groups of tables. Nothing here is checked; a schema may repeat names.
-/

namespace SchemaMarkup

/-- How many rows of one table a row of the other may belong to. -/
inductive Cardinality where
  /-- Many rows of the source belong to one row of the target, written `>`. -/
  | manyToOne
  /-- Many rows of the target belong to one row of the source, written `<`. -/
  | oneToMany
  /-- The rows belong to each other one by one, written `-`. -/
  | oneToOne
deriving DecidableEq, Repr, Inhabited

/-- The sign a cardinality is written with. -/
def Cardinality.symbol : Cardinality → Char
  | manyToOne => '>'
  | oneToMany => '<'
  | oneToOne => '-'

/-- The cardinality that a sign stands for. -/
def Cardinality.ofSymbol? : Char → Option Cardinality
  | '>' => some manyToOne
  | '<' => some oneToMany
  | '-' => some oneToOne
  | _ => none

/-- Reading a written sign gives the cardinality back, case by case. -/
@[simp]
theorem Cardinality.ofSymbol?_symbol (c : Cardinality)
    : ofSymbol? c.symbol = some c := by
  cases c <;> rfl

/-- One column of a table: its name, its type as written, a note and further constraints. -/
structure Field where
  name : String
  type : String
  note : Option String := none
  constraints : List String := []
deriving DecidableEq, Repr, Inhabited

/-- A field without a name or without a type, which cannot be written out. -/
def Field.isIncomplete (f : Field) : Bool :=
  Text.isBlankText f.name || Text.isBlankText f.type

/-- A table with its fields in declaration order. -/
structure Table where
  name : String
  fields : List Field := []
  note : Option String := none
deriving DecidableEq, Repr, Inhabited

/-- The field names in declaration order. -/
def Table.fieldNames (t : Table) : List String :=
  t.fields.map Field.name

/-- Whether a table declares a field of the given name. -/
def Table.declares (t : Table) (name : String) : Bool :=
  t.fields.any (·.name = name)

/-- A relationship between a field of one table and a field of another. -/
structure Ref where
  sourceTable : String
  sourceField : String
  cardinality : Cardinality
  targetTable : String
  targetField : String
deriving DecidableEq, Repr, Inhabited

/-- A table listed in a group, with the comment beside it. -/
structure Member where
  table : String
  comment : Option String := none
deriving DecidableEq, Repr, Inhabited

/-- A named and colored cluster of tables, for presentation only. -/
structure TableGroup where
  name : String
  members : List Member := []
  note : Option String := none
  color : Option String := none
deriving DecidableEq, Repr, Inhabited

/-- A complete schema description. -/
structure Schema where
  tables : List Table := []
  refs : List Ref := []
  groups : List TableGroup := []
deriving DecidableEq, Repr, Inhabited

namespace Schema

/-- The table names in declaration order, repetitions included. -/
def tableNames (s : Schema) : List String :=
  s.tables.map Table.name

/-- The first declaration of a table. -/
def table? (s : Schema) (name : String) : Option Table :=
  s.tables.find? (·.name = name)

/-- Whether a table of the given name is declared. -/
def declares (s : Schema) (name : String) : Bool :=
  s.tables.any (·.name = name)

end Schema
end SchemaMarkup
