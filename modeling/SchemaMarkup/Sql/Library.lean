import SchemaMarkup.Error
import SchemaMarkup.Sql.Dialect
import SchemaMarkup.Text.Blank

/-! SQL tables, and what is done with them by a library that builds, orders and writes them.
-/

namespace SchemaMarkup.Sql

/-- A column that a foreign key refers to. -/
structure KeyTarget where
  table : String
  column : String
deriving DecidableEq, Repr, Inhabited

/-- A column of a table with its foreign keys in order. -/
structure Column where
  name : String
  type : Primitive
  isPrimaryKey : Bool
  keys : List KeyTarget
deriving DecidableEq, Repr, Inhabited

/-- A table with its columns in order. -/
structure SqlTable where
  name : String
  columns : List Column
deriving DecidableEq, Repr, Inhabited

/-- What a library for SQL tables is asked for. -/
structure Library where
  /-- The column that a written target of a foreign key names. -/
  target : String → KeyTarget
  /-- Refuses the columns of a table by their names, if it has to. -/
  check : List String → Except Error Unit
  /-- The tables in an order in which they can be created, unless a foreign key leads nowhere. -/
  arrange : List SqlTable → Except Error (List SqlTable)
  /-- The statement that creates a table, with any white space around it. -/
  create : Dialect → SqlTable → String

/-- The statement that creates a table. -/
def Library.statement (lib : Library) (d : Dialect) (t : SqlTable) : String :=
  Text.trimmed (lib.create d t)

end SchemaMarkup.Sql
