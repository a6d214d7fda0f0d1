import SchemaMarkup.Sql.Arrangement
import SchemaMarkup.Sql.Tables

/-! The library with which schemas are exported: how it reads the targets of foreign keys, which
columns it refuses, and how it writes the statements that create tables.
-/

namespace SchemaMarkup.Sql

/-- The table and column that a written target names; it is cut at its last dot. -/
def KeyTarget.ofText (text : String) : KeyTarget :=
  let reversed := text.toList.reverse
  let column := (reversed.takeWhile (· ≠ '.')).reverse
  let table := ((reversed.dropWhile (· ≠ '.')).drop 1).reverse
  ⟨String.ofList table, String.ofList column⟩

/-- Columns need a name. -/
def checkNames (names : List String) : Except Error Unit :=
  if "" ∈ names then .error .blankColumnName else .ok ()

-----------------------------------------------------------------------------------------
-- Statements
-----------------------------------------------------------------------------------------

/-- The definition of a column. -/
def Column.definition (d : Dialect) (c : Column) : String :=
  d.writeName c.name ++ " " ++ d.typeName c.type ++ if c.isPrimaryKey then " NOT NULL" else ""

/-- The primary key of a table, if it has one. -/
def SqlTable.primaryKey (d : Dialect) (t : SqlTable) : List String :=
  match (t.columns.filter (·.isPrimaryKey)).map (d.writeName ·.name) with
  | [] => []
  | names => ["PRIMARY KEY (" ++ ", ".intercalate names ++ ")"]

/-- The foreign keys of a column. -/
def Column.foreignKeys (d : Dialect) (c : Column) : List String :=
  c.keys.map fun k =>
    "FOREIGN KEY(" ++ d.writeName c.name ++ ") REFERENCES " ++ d.writeName k.table
      ++ " (" ++ d.writeName k.column ++ ")"

/-- The statement that creates a table. -/
def SqlTable.definition (d : Dialect) (t : SqlTable) : String :=
  let parts := t.columns.map (Column.definition d) ++ t.primaryKey d
    ++ t.columns.flatMap (Column.foreignKeys d)
  let body :=
    match parts with
    | [] => ""
    | p :: ps => "\n\t" ++ ", \n\t".intercalate (p :: ps)
  "CREATE TABLE " ++ d.writeName t.name ++ " (" ++ body ++ "\n)"

/-- The library with which schemas are exported. -/
def Library.standard : Library where
  target := KeyTarget.ofText
  check := checkNames
  arrange := Sql.arrange
  create d t := "\n" ++ t.definition d ++ "\n\n"

end Sql

/-- The statements that create the tables of a schema in a dialect. -/
def Schema.toSql (s : Schema) (dialect : String) : Except Error String :=
  s.toSqlBy .standard dialect

end SchemaMarkup
