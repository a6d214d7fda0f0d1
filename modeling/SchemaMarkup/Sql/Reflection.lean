import SchemaMarkup.Sql.Database
import SchemaMarkup.Text.Word

/-! Describing an existing database as a schema. Declared types are taken back to primitive
types, and foreign keys become references and types of fields.
-/

namespace SchemaMarkup.Sql

open Text

-----------------------------------------------------------------------------------------
-- Types
-----------------------------------------------------------------------------------------

/-- The declared type in capitals, up to its length or precision. -/
def typeKeyword (declared : String) : String :=
  String.ofList ((upper declared).toList.takeWhile fun c => isWord c || c = ' ')

/-- The primitive type of a declared type: by its keyword if it is a known one, else by the
letters in it.
-/
def primitiveOfDeclared (declared : String) : Primitive :=
  let word := typeKeyword declared
  if word ∈ ["BOOL", "BOOLEAN"] then .yesNo
  else if word ∈ ["INTEGER", "INT", "BIGINT", "SMALLINT", "NUMERIC", "DECIMAL"] then .number
  else if word ∈ ["DATE", "DATETIME", "TIME", "TIMESTAMP", "DATE_CHAR", "DATETIME_CHAR",
    "TIME_CHAR"] then .date
  else if word ∈ ["CHAR", "NCHAR", "NVARCHAR", "VARCHAR", "TEXT", "BLOB", "JSON", "JSONB"]
  then .text
  else if isPartOf "INT" word then .number
  else if ["CHAR", "CLOB", "TEXT", "BLOB"].any (isPartOf · word) || word.isEmpty then .text
  else .number

-----------------------------------------------------------------------------------------
-- The tables of a name
-----------------------------------------------------------------------------------------

/-- The columns that a foreign key refers to. If it names none, they are the primary key of its
table.
-/
def StoredKey.resolvedTargets (database : List StoredTable) (k : StoredKey) : List String :=
  match k.targets.filter (· ≠ "") with
  | [] => ((database.find? (·.name = k.table)).map StoredTable.primaryKey).getD []
  | targets => targets

/-- The targets of the keys of a column. -/
def StoredTable.keysOf (database : List StoredTable) (t : StoredTable) (column : String)
    : List KeyTarget :=
  let targets := t.keys.flatMap fun k =>
    (k.columns.zip (k.resolvedTargets database)).filterMap fun (own, target) =>
      if own = column then some ⟨k.table, target⟩ else none
  targets.eraseDups

/-- A stored table with its declared types and its keys understood. -/
def StoredTable.understood (database : List StoredTable) (t : StoredTable) : SqlTable where
  name := t.name
  columns := t.columns.map fun c =>
    ⟨c.name, primitiveOfDeclared c.declaredType, decide (c.name ∈ t.primaryKey),
      t.keysOf database c.name⟩

/-- A stored table that is read under another spelling of its name, without its keys. -/
def StoredTable.underName (t : StoredTable) (name : String) : SqlTable where
  name := name
  columns := t.columns.map fun c => ⟨c.name, primitiveOfDeclared c.declaredType, false, []⟩

/-- The table in which a database lists its tables, under one of its names. -/
def tableList? (name : String) : Option SqlTable :=
  if caseless name ∈
    ["sqlite_master", "sqlite_schema", "sqlite_temp_master", "sqlite_temp_schema"]
  then
    some ⟨name, [⟨"type", .text, false, []⟩, ⟨"name", .text, false, []⟩,
      ⟨"tbl_name", .text, false, []⟩, ⟨"rootpage", .number, false, []⟩,
      ⟨"sql", .text, false, []⟩]⟩
  else none

/-- The table that is read under a name. -/
def tableNamed? (database : List StoredTable) (name : String) : Option SqlTable :=
  match database.find? (·.name = name) with
  | some t => some (t.understood database)
  | none =>
    match database.find? fun t => caseless t.name = caseless name with
    | some t => some (t.underName name)
    | none => tableList? name

/-- The fault of a stored key whose table has been read. -/
def StoredKey.fault? (database : List StoredTable) (k : StoredKey) : Option Error :=
  if (k.resolvedTargets database).length ≠ k.columns.length then some .storedKeyWidthMismatch
  else if k.table = "" then some .emptyKeyTable
  else none

/-- The names of the tables that have been read once a table and those it refers to are read,
given the names read before. `depth` bounds the length of a chain of references.
-/
def visit (database : List StoredTable)
    : Nat → List String → String → Except Error (List String)
  | 0, read, _ => .ok read
  | depth + 1, read, name =>
    if name ∈ read then .ok read
    else match tableNamed? database name with
      | none => .error (.noSuchTable name)
      | some t => do
        checkNames (t.columns.map Column.name)
        -- The table counts as read before those it refers to, so a circle ends here.
        let keys := ((database.find? (·.name = name)).map StoredTable.keys).getD []
        keys.foldlM (fun read k => do
          let read ← visit database depth read k.table
          match k.fault? database with
          | some e => .error e
          | none => return read) (name :: read)

-----------------------------------------------------------------------------------------
-- The schema of a database
-----------------------------------------------------------------------------------------

/-- The field that describes a column. -/
def Column.toField (c : Column) : Field where
  name := c.name
  type :=
    match c.keys with
    | k :: _ => k.table
    | [] => if c.isPrimaryKey then Primitive.unique.name else c.type.name
  constraints := if c.isPrimaryKey then ["pk"] else []

/-- The references that describe the foreign keys of a table. -/
def SqlTable.toRefs (t : SqlTable) : List Ref :=
  t.columns.flatMap fun c => c.keys.map fun k =>
    ⟨t.name, c.name, .manyToOne, k.table, k.column⟩

/-- The schema that describes a database, its tables in creation order. -/
def describe (database : List StoredTable) : Except Error Schema := do
  let names := Text.sorted (database.map StoredTable.name)
  -- A chain of references may end at a further spelling or at the list of tables.
  let read ← names.foldlM (visit database (database.length + 2)) []
  let arranged ← arrange (read.filterMap (tableNamed? database))
  return {
    tables := arranged.map fun t => { name := t.name, fields := t.columns.map Column.toField }
    refs := arranged.flatMap SqlTable.toRefs }

end SchemaMarkup.Sql
