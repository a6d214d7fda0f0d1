import SchemaMarkup.Text.Quoted

/-! Everything that can be refused, by its cause, and the wording of each refusal. -/

namespace SchemaMarkup

/-- Why a request cannot be answered. -/
inductive Error where
  /-- A text declares no table. -/
  | noTables
  /-- The braces of a text do not pair up. -/
  | unbalancedBraces (opened closed : Nat)
  /-- A schema declares several tables of one name. -/
  | duplicateTables (names : List String)
  /-- A table cannot be called by a blank name. -/
  | emptyTableName
  /-- The table is not there to be edited. -/
  | unknownTable (name : String)
  /-- Another table has or had the name. -/
  | tableNameInUse (name : String)
  /-- No element has the index that is read. -/
  | indexOutOfRange
  /-- No element has the index that is deleted. -/
  | deletedIndexOutOfRange
  /-- A conventions document lacks a section. -/
  | missingSection (name : String)
  /-- A part of a conventions document lacks a setting. -/
  | missingSetting (key : String)
  /-- A conventions document has a string in the place of settings. -/
  | stringForPart
  /-- A conventions document has a list in the place of settings. -/
  | listForPart
  /-- A conventions document has a list in the place of the main name of keys. -/
  | listForName
  /-- A conventions document has a list in the place of the suffix of references. -/
  | listForSuffix
  /-- A type family is called after several strings. -/
  | primitiveList (names : List String)
  /-- A type family is not called after one of the primitive types. -/
  | unknownPrimitive (name : String)
  /-- No dialect of that name is known. -/
  | unknownDialect (name : String)
  /-- A foreign key of a column names a table that does not exist. -/
  | keyTableMissing (table column target targetColumn : String)
  /-- A column of a table has no name. -/
  | blankColumnName
  /-- A statement holds a null character. -/
  | nullCharacter
  /-- A statement ends too early. -/
  | incompleteStatement
  /-- A lexeme of a statement cannot be read. -/
  | unreadableLexeme (text : String)
  /-- A lexeme of a statement does not belong where it stands. -/
  | unexpectedLexeme (text : String)
  /-- A statement creates a table whose name is kept for the database itself. -/
  | reservedTable (name : String)
  /-- A statement creates a table that is there already. -/
  | tableExists (name : String)
  /-- A statement declares a column twice. -/
  | columnExists (name : String)
  /-- A statement declares several primary keys of a table. -/
  | severalPrimaryKeys (table : String)
  /-- Numbers are to be given to rows by a column that is no whole number or not the key. -/
  | misplacedAutoincrement
  /-- A computed column is described in a way that is not known. -/
  | generatedColumnFault (column : String)
  /-- A computed column is also given a default value. -/
  | defaultOfGenerated
  /-- A computed column is to be part of the primary key. -/
  | generatedPrimaryKey
  /-- A key is to be made of a column that the table lacks. -/
  | unknownKeyColumn (name : String)
  /-- An option of a table is not known. -/
  | unknownTableOption (option : String)
  /-- All columns of a table are computed. -/
  | onlyGeneratedColumns
  /-- Texts are to be compared in an order that is not known. -/
  | unknownCollation (name : String)
  /-- The foreign key of one column names several columns. -/
  | keyTooWide (column table : String)
  /-- A foreign key does not refer to as many columns as it has. -/
  | keyWidthMismatch
  /-- A foreign key of a column that the table lacks. -/
  | keyOfUnknownColumn (name : String)
  /-- A database table refers to a table that is not in the database. -/
  | noSuchTable (name : String)
  /-- A foreign key of a database does not refer to as many columns as it has. -/
  | storedKeyWidthMismatch
  /-- A foreign key of a database refers to a table with an empty name. -/
  | emptyKeyTable
  /-- A database table refers to a column that its target table lacks. -/
  | keyColumnMissing (table target targetColumn : String)
  /-- A file holds something else than a database. -/
  | notADatabase
  /-- The file of a database is not where it was looked for. -/
  | cannotOpenDatabase
  /-- A style tag with this content closes no open one. -/
  | unmatchedTag (content : String) (position : Nat)
  /-- A style tag closes the innermost style while none is open. -/
  | nothingToClose (position : Nat)
  /-- One of the three shades of a color is missing. -/
  | emptyShade
deriving DecidableEq, Repr, Inhabited

/-- The words in which a refusal is reported. -/
def Error.message : Error → String
  | noTables => "No tables defined in schema text"
  | unbalancedBraces opened closed =>
    "Unbalanced braces in schema text: " ++ toString opened ++ " open, "
      ++ toString closed ++ " close"
  | duplicateTables names => "Duplicate tables in schema: " ++ ", ".intercalate names
  | emptyTableName => "Table name must not be empty"
  | unknownTable name => "Unknown table: " ++ name
  | tableNameInUse name => "Table name already in use: " ++ name
  | indexOutOfRange => "list index out of range"
  | deletedIndexOutOfRange => "list assignment index out of range"
  | missingSection name => "Missing conventions section: " ++ name
  | missingSetting key => Text.quoted key
  | stringForPart => "string indices must be integers, not 'str'"
  | listForPart => "list indices must be integers or slices, not str"
  | listForName => "unhashable type: 'list'"
  | listForSuffix => "'list' object has no attribute 'lower'"
  | primitiveList names =>
    "[" ++ ", ".intercalate (names.map Text.quoted) ++ "] is not a valid PrimitiveType"
  | unknownPrimitive name => Text.quoted name ++ " is not a valid PrimitiveType"
  | unknownDialect name => Text.quoted name
  | keyTableMissing table column target targetColumn =>
    "Foreign key associated with column '" ++ table ++ "." ++ column
      ++ "' could not find table '" ++ target
      ++ "' with which to generate a foreign key to target column '" ++ targetColumn ++ "'"
  | blankColumnName =>
    "Column must be constructed with a non-blank name or assign a non-blank .name before "
      ++ "adding to a Table."
  | nullCharacter => "embedded null character"
  | incompleteStatement => "incomplete input"
  | unreadableLexeme text => "unrecognized token: \"" ++ text ++ "\""
  | unexpectedLexeme text => "near \"" ++ text ++ "\": syntax error"
  | reservedTable name => "object name reserved for internal use: " ++ name
  | tableExists name => "table " ++ name ++ " already exists"
  | columnExists name => "duplicate column name: " ++ name
  | severalPrimaryKeys table => "table \"" ++ table ++ "\" has more than one primary key"
  | misplacedAutoincrement => "AUTOINCREMENT is only allowed on an INTEGER PRIMARY KEY"
  | generatedColumnFault column => "error in generated column \"" ++ column ++ "\""
  | defaultOfGenerated => "cannot use DEFAULT on a generated column"
  | generatedPrimaryKey => "generated columns cannot be part of the PRIMARY KEY"
  | unknownKeyColumn name => "no such column: " ++ name
  | unknownTableOption option => "unknown table option: " ++ option
  | onlyGeneratedColumns => "must have at least one non-generated column"
  | unknownCollation name => "no such collation sequence: " ++ name
  | keyTooWide column table =>
    "foreign key on " ++ column ++ " should reference only one column of table " ++ table
  | keyWidthMismatch =>
    "number of columns in foreign key does not match the number of columns in the referenced "
      ++ "table"
  | keyOfUnknownColumn name => "unknown column \"" ++ name ++ "\" in foreign key definition"
  | noSuchTable name => name
  | storedKeyWidthMismatch =>
    "ForeignKeyConstraint number of constrained columns must match the number of referenced "
      ++ "columns."
  | emptyKeyTable => "ForeignKey target table_name must be a non-empty string"
  | keyColumnMissing table target targetColumn =>
    "Could not initialize target column for ForeignKey '" ++ target ++ "." ++ targetColumn
      ++ "' on table '" ++ table ++ "': table '" ++ target ++ "' has no column named '"
      ++ targetColumn ++ "'"
  | notADatabase => "file is not a database"
  | cannotOpenDatabase => "unable to open database file"
  | unmatchedTag content position =>
    "closing tag '[" ++ content ++ "]' at position " ++ toString position
      ++ " doesn't match any open tag"
  | nothingToClose position =>
    "closing tag '[/]' at position " ++ toString position ++ " has nothing to close"
  | emptyShade => "invalid literal for int() with base 10: ''"

end SchemaMarkup
