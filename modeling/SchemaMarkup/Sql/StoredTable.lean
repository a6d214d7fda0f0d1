import SchemaMarkup.Sql.Lexeme

/-! Tables as they are stored: with the names, types and keys under which they were declared. A
written type loses its quotes and the words that only say that a column is computed.
-/

namespace SchemaMarkup.Sql

/-- A stored column with its declared type. -/
structure StoredColumn where
  name : String
  declaredType : String
  hasDefault : Bool := false
  isGenerated : Bool := false
deriving DecidableEq, Repr, Inhabited

/-- A stored foreign key. It refers to the primary key of its table if it names no columns. -/
structure StoredKey where
  columns : List String
  table : String
  targets : List String
deriving DecidableEq, Repr, Inhabited

/-- A stored table. -/
structure StoredTable where
  name : String
  columns : List StoredColumn := []
  primaryKey : List String := []
  keys : List StoredKey := []
deriving DecidableEq, Repr, Inhabited

/-- A name without regard to the case of ASCII letters, by which stored names are told apart. -/
def caseless (name : String) : String :=
  String.ofList (name.toList.map Char.toLower)

/-- The column that a name means, by the name under which it was declared. -/
def StoredTable.columnName? (t : StoredTable) (name : String) : Option String :=
  (t.columns.map StoredColumn.name).find? fun n => caseless n = caseless name

-----------------------------------------------------------------------------------------
-- Written types
-----------------------------------------------------------------------------------------

/-- A text without an ending, regardless of case, and without the blanks before it. -/
def withoutEnding? (ending : String) (cs : List Char) : Option (List Char) :=
  let rest := cs.take (cs.length - ending.length)
  if (cs.drop rest.length).map Char.toLower = ending.toList then
    some (rest.reverse.dropWhile isSqlBlank).reverse
  else none

/-- The written type of a generated column without the words that say so. -/
def withoutGenerated (cs : List Char) : List Char :=
  if (String.ofList cs).utf8ByteSize < 16 then cs
  else match withoutEnding? "always" cs with
    | none => cs
    | some cs => (withoutEnding? "generated" cs).getD cs

/-- Whether a character opens a quotation. -/
def opensQuote (c : Char) : Bool :=
  c = '"' || c = '\'' || c = '\x60' || c = '['

/-- A written type without the quotes around it. If there are further quotes inside, only the
first quotation is kept.
-/
def withoutTypeQuotes (cs : List Char) : List Char :=
  let inner := (cs.drop 1).dropLast
  if cs.length ≥ 3 && cs.head?.any opensQuote && !inner.any opensQuote then inner
  else Lexeme.unquoted cs

end SchemaMarkup.Sql
