import SchemaMarkup.Sql.Definition
import SchemaMarkup.Sql.Statement

/-! Databases: the tables that are asked for, by columns or by a schema, created one after
another.
-/

namespace SchemaMarkup.Sql

/-- A column that is asked for. Its type is written as it is. -/
structure ColumnRequest where
  name : String
  type : String
  isPrimaryKey : Bool
  key? : Option KeyTarget
deriving DecidableEq, Repr, Inhabited

/-- A table that is asked for. -/
structure TableRequest where
  name : String
  columns : List ColumnRequest
deriving DecidableEq, Repr, Inhabited

/-- A name in quotes. -/
def quotedName (name : String) : String :=
  Dialect.sqlite.betweenQuotes name

/-- The foreign key of a column that is asked for. -/
def ColumnRequest.foreignKey? (c : ColumnRequest) : Option String :=
  c.key?.map fun k =>
    "FOREIGN KEY (" ++ quotedName c.name ++ ") REFERENCES " ++ quotedName k.table
      ++ " (" ++ quotedName k.column ++ ")"

/-- The statement that creates a table as it is asked for. -/
def TableRequest.statement (t : TableRequest) : String :=
  let columns := t.columns.map fun c => quotedName c.name ++ " " ++ c.type
  let primaryKey :=
    match (t.columns.filter (·.isPrimaryKey)).map (quotedName ·.name) with
    | [] => []
    | names => ["PRIMARY KEY (" ++ ", ".intercalate names ++ ")"]
  let parts := columns ++ primaryKey ++ t.columns.filterMap ColumnRequest.foreignKey?
  "CREATE TABLE " ++ quotedName t.name ++ " (" ++ ", ".intercalate parts ++ ")"

/-- The database with the tables that are asked for. -/
def databaseOfRequests (ts : List TableRequest) : Except Error (List StoredTable) :=
  ts.foldlM (fun before t => execute before t.statement) []

/-- The database that the statements for a schema create. -/
def databaseOf (s : Schema) : Except Error (List StoredTable) := do
  execute [] (← s.toSql Dialect.sqlite.name)

end SchemaMarkup.Sql
