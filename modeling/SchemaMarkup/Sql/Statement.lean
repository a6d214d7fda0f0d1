import SchemaMarkup.Sql.Declaration

/-! Statements that create tables, as SQLite reads them, and the tables that they create. -/

namespace SchemaMarkup.Sql
namespace Reader

-----------------------------------------------------------------------------------------
-- Columns
-----------------------------------------------------------------------------------------

/-- The words with which the constraints of a column begin. -/
def columnWords : List String :=
  ["CONSTRAINT", "DEFAULT", "NULL", "NOT", "PRIMARY", "UNIQUE", "CHECK", "REFERENCES",
    "DEFERRABLE", "COLLATE", "GENERATED", "AS"]

/-- Gives a table its primary key. -/
def withPrimaryKey (t : StoredTable) (columns : List String) (isAutomatic isWhole : Bool)
    : Reader StoredTable := do
  unless t.primaryKey.isEmpty do throw (.severalPrimaryKeys t.name)
  if t.columns.any fun c => c.isGenerated && decide (c.name ∈ columns) then
    throw .generatedPrimaryKey
  if isAutomatic && !isWhole then throw .misplacedAutoincrement
  return { t with primaryKey := columns }

/-- Whether a column of a table holds whole numbers. -/
def holdsWholeNumbers (t : StoredTable) (column : String) : Bool :=
  t.columns.any fun c => c.name = column && caseless c.declaredType = "integer"

/-- Puts a column in the place of the last one of a table. -/
def withLastColumn (t : StoredTable) (column : StoredColumn) : StoredTable :=
  { t with columns := t.columns.dropLast ++ [column] }

/-- Reads the constraint of a column, which is the last of its table so far. -/
def columnConstraint (t : StoredTable) (column : StoredColumn) : Reader StoredTable := do
  if ← takesKeyword "CONSTRAINT" then
    let _ ← name
    return t
  else if ← takesKeyword "DEFAULT" then
    defaultValue
    settle columnWords
    if column.isGenerated then throw .defaultOfGenerated
    return withLastColumn t { column with hasDefault := true }
  else if ← takesKeyword "NOT" then
    if ← takesKeyword "NULL" then conflictRule
    else
      needsKeyword ["DEFERRABLE"]
      deferral
    return t
  else if ← takesKeyword "DEFERRABLE" then
    deferral
    return t
  else if ← takesKeyword "PRIMARY" then
    needsKeyword ["KEY"]
    let isDescending ← sortOrder
    conflictRule
    let isAutomatic ← takesKeyword "AUTOINCREMENT"
    settle columnWords
    withPrimaryKey t [column.name] isAutomatic
      (!isDescending && holdsWholeNumbers t column.name)
  else if ← takesKeyword "CHECK" then
    expression
    return t
  else if ← takesKeyword "REFERENCES" then
    let (table, targets) ← keyTarget
    settle columnWords
    if targets.length > 1 then
      throw (.keyTooWide column.name (String.ofList table.text))
    return { t with keys := t.keys ++ [⟨[column.name], table.name, targets⟩] }
  else if ← takesKeyword "COLLATE" then
    let order := (← needs Lexeme.isOfType).name
    settle columnWords
    if caseless order ∉ ["binary", "nocase", "rtrim"] then throw (.unknownCollation order)
    return t
  else if ← seesKeyword ["GENERATED", "AS"] then
    if ← takesKeyword "GENERATED" then needsKeyword ["ALWAYS"]
    needsKeyword ["AS"]
    expression
    let manner := (← get).takeWhile (fun l => l.isOfType && l.kind ≠ .string) |>.take 1
    modify (·.drop manner.length)
    settle columnWords
    if column.hasDefault || column.isGenerated
        || !manner.all fun l => l.isKeyword "STORED" || l.isKeyword "VIRTUAL" then
      throw (.generatedColumnFault column.name)
    if column.name ∈ t.primaryKey then throw .generatedPrimaryKey
    return withLastColumn t { column with isGenerated := true }
  else
    needsKeyword ["NULL", "UNIQUE"]
    conflictRule
    return t

/-- Reads the constraints of the last column of a table. -/
def columnConstraints (t : StoredTable) : Nat → Reader StoredTable
  | 0 => return t
  | steps + 1 => do
    settle columnWords
    match t.columns.getLast? with
    | none => return t
    | some column =>
      if ← seesKeyword columnWords then
        columnConstraints (← columnConstraint t column) steps
      else return t

/-- Reads one more column of a table. -/
def column (t : StoredTable) : Reader StoredTable := do
  let columnName ← name
  let declaredType ← columnType
  settle columnWords
  if (t.columnName? columnName).isSome then throw (.columnExists columnName)
  repeated (columnConstraints { t with
    columns := t.columns ++ [{ name := columnName, declaredType }] })

-----------------------------------------------------------------------------------------
-- Tables
-----------------------------------------------------------------------------------------

/-- The words with which the constraints of a table begin. -/
def tableWords : List String :=
  ["CONSTRAINT", "PRIMARY", "UNIQUE", "CHECK", "FOREIGN"]

/-- Reads a column that belongs to a key. -/
def keyColumn : Reader String := do
  let column ← name
  if ← takesKeyword "COLLATE" then
    let _ ← needs Lexeme.isOfType
  let _ ← sortOrder
  return column

/-- Reads the columns of a primary key, and whether it numbers the rows. -/
def keyColumns : Reader (List String × Bool) := do
  needsSign '('
  let columns ← repeated (separated keyColumn)
  let isAutomatic ← takesKeyword "AUTOINCREMENT"
  needsSign ')'
  return (columns, isAutomatic)

/-- The columns that are meant by names. A table has to have them. -/
def ownColumns (t : StoredTable) (fault : String → Error) (columns : List String)
    : Reader (List String) :=
  columns.mapM fun column =>
    match t.columnName? column with
    | some name => pure name
    | none => throw (fault column)

/-- Reads the constraint of a table. -/
def tableConstraint (t : StoredTable) : Reader StoredTable := do
  if ← takesKeyword "CONSTRAINT" then
    let _ ← name
    return t
  else if ← takesKeyword "PRIMARY" then
    needsKeyword ["KEY"]
    let (columns, isAutomatic) ← keyColumns
    conflictRule
    settle tableWords
    let own ← ownColumns t .unknownKeyColumn columns
    withPrimaryKey t own isAutomatic (own.length = 1 && own.all (holdsWholeNumbers t))
  else if ← takesKeyword "UNIQUE" then
    let columns ← bracketed keyColumn
    conflictRule
    settle tableWords
    let _ ← ownColumns t .unknownKeyColumn columns
    return t
  else if ← takesKeyword "CHECK" then
    expression
    conflictRule
    return t
  else
    needsKeyword ["FOREIGN"]
    needsKeyword ["KEY"]
    let columns ← bracketed name
    needsKeyword ["REFERENCES"]
    let (table, targets) ← keyTarget
    if (← seesKeyword ["NOT"]) || (← seesKeyword ["DEFERRABLE"]) then
      let _ ← takesKeyword "NOT"
      needsKeyword ["DEFERRABLE"]
      deferral
    settle tableWords
    if !targets.isEmpty && targets.length ≠ columns.length then throw .keyWidthMismatch
    let own ← ownColumns t .keyOfUnknownColumn columns
    return { t with keys := t.keys ++ [⟨own, table.name, targets⟩] }

/-- Reads the constraints of a table up to its closing bracket. -/
def tableConstraints (t : StoredTable) : Nat → Reader StoredTable
  | 0 => return t
  | steps + 1 => do
    let t ← tableConstraint t
    settle tableWords
    if ← seesSign ')' then return t
    let _ ← takesSign ','
    tableConstraints t steps

/-- Reads the columns of a table, and its constraints, up to its closing bracket. -/
def columns (t : StoredTable) : Nat → Reader StoredTable
  | 0 => return t
  | steps + 1 => do
    let t ← column t
    if ← takesSign ',' then
      if ← seesKeyword tableWords then tableConstraints t steps else columns t steps
    else return t

/-- Passes an option of a table, which has to be known. -/
def tableOption : Reader Unit := do
  let isWithout ← takesKeyword "WITHOUT"
  let option ← needs Lexeme.isName
  unless (← get).isEmpty || (← seesSign ',') || (← seesSign ';') do refuse
  unless option.isKeyword (if isWithout then "ROWID" else "STRICT") do
    throw (.unknownTableOption (String.ofList option.text))

/-- Passes the options of a table. -/
def tableOptions : Reader Unit := do
  if (← get).isEmpty || (← seesSign ';') then return
  unless ← seesSign ',' do tableOption
  if ← takesSign ',' then
    let _ ← repeated (separated tableOption)
  unless (← get).isEmpty || (← seesSign ';') do refuse

/-- Reads a statement that creates a table beside others. -/
def table (others : List StoredTable) : Reader StoredTable := do
  needsKeyword ["CREATE"]
  needsKeyword ["TABLE"]
  let heading ← needs Lexeme.isName
  unless ← seesSign '(' do refuse
  if "sqlite_".toList.isPrefixOf (caseless heading.name).toList then
    throw (.reservedTable heading.name)
  if others.any fun o => caseless o.name = caseless heading.name then
    throw (.tableExists (String.ofList heading.text))
  needsSign '('
  let t ← repeated (columns { name := heading.name })
  needsSign ')'
  tableOptions
  if t.columns.all (·.isGenerated) then throw .onlyGeneratedColumns
  return t

/-- Reads statements up to the end and creates their tables after others. -/
def tables (before : List StoredTable) : Nat → Reader (List StoredTable)
  | 0 => return before
  | steps + 1 => do
    if (← get).isEmpty then return before
    else if ← takesSign ';' then tables before steps
    else tables (before ++ [← table before]) steps

end Reader

/-- The tables of a database after statements have been executed in it. -/
def execute (before : List StoredTable) (statements : String)
    : Except Error (List StoredTable) :=
  if '\x00' ∈ statements.toList then .error .nullCharacter
  else (Reader.repeated (Reader.tables before)).run' (lexemes statements.toList)

end SchemaMarkup.Sql
