/-! Naming conventions: how key fields are spelled, what new tables and fields are called, and
which spellings of a type belong to which family.
-/

namespace SchemaMarkup

/-- How key fields and the fields that refer to them are spelled. -/
structure KeyNames where
  /-- The name of a table's own key. -/
  main : String
  /-- The ending of a field name that refers to another table. -/
  suffix : String
  /-- Older spellings of the main name. -/
  older : List String
deriving DecidableEq, Repr, Inhabited

/-- What new tables and fields are called until they are named. -/
structure FreshNames where
  field : String
  fieldType : String
  table : String
  tableNote : String
deriving DecidableEq, Repr, Inhabited

/-- The spellings of one family of types. -/
structure TypeFamily where
  name : String
  spellings : List String
deriving DecidableEq, Repr, Inhabited

/-- All conventions of a project. -/
structure Conventions where
  keys : KeyNames
  fresh : FreshNames
  /-- The color of a group that is given none. -/
  groupColor : String
  families : List TypeFamily
deriving DecidableEq, Repr, Inhabited

namespace Conventions

/-- All field names that stand for a table's own key. -/
def keySpellings (c : Conventions) : List String :=
  c.keys.main :: c.keys.older

/-- Whether a field name stands for a table's own key. -/
def isKey (c : Conventions) (name : String) : Bool :=
  decide (name ∈ c.keySpellings)

/-- The conventions used unless others are given. -/
def standard : Conventions where
  keys := { main := "_id", suffix := "_id", older := ["id"] }
  fresh :=
    { field := "new_field", fieldType := "text", table := "new_table",
      tableNote := "Primary key" }
  groupColor := "#FFBD94"
  families := [
    ⟨"unique", ["unique", "uuid", "uniqueidentifier", "guid"]⟩,
    ⟨"Y_N", ["y_n", "boolean", "bool", "bit", "yes_no"]⟩,
    ⟨"date", ["datetime", "timestamp", "timestamptz", "date", "time"]⟩,
    ⟨"number", ["number", "integer", "int", "bigint", "smallint", "decimal", "numeric",
      "float", "double", "real", "serial", "money"]⟩,
    ⟨"text", ["text", "varchar", "char", "string", "nvarchar", "clob", "json"]⟩]

end Conventions
end SchemaMarkup
