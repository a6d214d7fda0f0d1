import SchemaMarkup.Sql.ReservedWords
import SchemaMarkup.Text.Case
import SchemaMarkup.Vocabulary.Primitive

/-! The SQL dialects: how each writes the primitive types and which names it puts in quotes. -/

namespace SchemaMarkup.Sql

/-- A dialect in which statements can be written. -/
inductive Dialect where
  | sqlite
  | postgresql
  | mysql
deriving DecidableEq, Repr, Inhabited

namespace Dialect

/-- How a dialect is called. -/
def name : Dialect → String
  | sqlite => "sqlite"
  | postgresql => "postgresql"
  | mysql => "mysql"

/-- The dialect of a name. -/
def ofName (name : String) : Except Error Dialect :=
  match name with
  | "sqlite" => .ok sqlite
  | "postgresql" => .ok postgresql
  | "mysql" => .ok mysql
  | _ => .error (.unknownDialect name)

/-- How a dialect writes a primitive type. -/
def typeName : Dialect → Primitive → String
  | _, .number => "NUMERIC"
  | mysql, .yesNo => "BOOL"
  | _, .yesNo => "BOOLEAN"
  | postgresql, .date => "TIMESTAMP WITHOUT TIME ZONE"
  | _, .date => "DATETIME"
  | _, .unique => "VARCHAR(36)"
  | _, .text => "VARCHAR(255)"

/-- The words that a dialect reserves. -/
def reservedWords : Dialect → List String
  | sqlite => sqliteWords
  | postgresql => postgresqlWords
  | mysql => mysqlWords

/-- The character around quoted names. -/
def quote : Dialect → Char
  | mysql => '\x60'
  | _ => '"'

/-- Whether a character may stand in a name without quotes. The long s and the dotless i count
as the letters that they are forms of.
-/
def isPlainChar (c : Char) : Bool :=
  c.isAlphanum || c = '_' || c = '$' || c = 'ſ' || c = 'ı'

/-- Whether a name is made of plain characters; one line feed may end it. -/
def isPlainName (name : List Char) : Bool :=
  let body := if name.getLast? = some '\n' then name.dropLast else name
  !body.isEmpty && body.all isPlainChar

/-- Whether a dialect has to quote a name: a reserved word, a name that starts like a number,
one that is not made of plain characters, as the empty name is not, and one that is not in lower
case.
-/
def needsQuotes (d : Dialect) (name : String) : Bool :=
  let cs := name.toList
  decide (Text.lower name ∈ d.reservedWords)
    || cs.head?.any (fun c => c.isDigit || c = '$')
    || !isPlainName cs
    || Text.lower name != name

/-- One character of a quoted name: the quote is doubled, and outside SQLite the percent sign
too.
-/
def quotedChar (d : Dialect) (c : Char) : List Char :=
  if c = d.quote || (c = '%' && d ≠ sqlite) then [c, c] else [c]

/-- A name between quotes. -/
def betweenQuotes (d : Dialect) (name : String) : String :=
  String.ofList (d.quote :: name.toList.flatMap d.quotedChar ++ [d.quote])

/-- A name as a dialect writes it. -/
def writeName (d : Dialect) (name : String) : String :=
  if d.needsQuotes name then d.betweenQuotes name else name

end Dialect
end SchemaMarkup.Sql
