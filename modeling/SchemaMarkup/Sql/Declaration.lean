import SchemaMarkup.Sql.Reader
import SchemaMarkup.Sql.StoredTable

/-! The parts of column and table declarations: types, and what constraints say about conflicts,
order, default values and foreign keys.
-/

namespace SchemaMarkup.Sql.Reader

-----------------------------------------------------------------------------------------
-- Types
-----------------------------------------------------------------------------------------

/-- Reads a number with or without a sign before it. -/
def signedNumber : Reader (List Lexeme) := do
  let isSign (l : Lexeme) : Bool := l.isSign '+' || l.isSign '-'
  if ← sees isSign then return [← needs isSign, ← needs (·.kind = .number)]
  else return [← needs (·.kind = .number)]

/-- Reads the length or precision of a type. -/
def typeSize : Reader (List Lexeme) := do
  let opening ← needs (·.isSign '(')
  let first ← signedNumber
  let more ←
    if ← seesSign ',' then do
      let comma ← needs (·.isSign ',')
      pure (comma :: (← signedNumber))
    else pure []
  return opening :: first ++ more ++ [← needs (·.isSign ')')]

/-- Reads the type of a column, which may be missing. -/
def columnType : Reader String := do
  let (words, rest) := (← get).span Lexeme.isOfType
  if words.isEmpty then return ""
  set rest
  let size ← if ← seesSign '(' then typeSize else pure []
  let written := Lexeme.textOf (words ++ size)
  return String.ofList (withoutTypeQuotes (withoutGenerated written))

-----------------------------------------------------------------------------------------
-- Parts of constraints
-----------------------------------------------------------------------------------------

/-- Passes what is to be done about a conflict. -/
def conflictRule : Reader Unit := do
  if ← takesKeyword "ON" then
    needsKeyword ["CONFLICT"]
    needsKeyword ["ROLLBACK", "ABORT", "FAIL", "IGNORE", "REPLACE"]

/-- Reads a sort order and says whether it is descending. -/
def sortOrder : Reader Bool := do
  if ← takesKeyword "ASC" then return false
  takesKeyword "DESC"

/-- Passes when a deferrable constraint is checked. -/
def deferral : Reader Unit := do
  if ← takesKeyword "INITIALLY" then needsKeyword ["DEFERRED", "IMMEDIATE"]

/-- Whether a lexeme is a value that stands for itself. -/
def isLiteral (l : Lexeme) : Bool :=
  l.kind = .number || l.kind = .string || l.kind = .bytes || l.isKeyword "NULL"
    || ["CURRENT_DATE", "CURRENT_TIME", "CURRENT_TIMESTAMP"].any l.isKeyword

/-- Passes the default value of a column. -/
def defaultValue : Reader Unit := do
  if ← seesSign '(' then expression
  else if ← takes fun l => l.isSign '+' || l.isSign '-' then
    let _ ← needs isLiteral
  else
    let _ ← needs fun l => isLiteral l || l.isOfType || l.isKeyword "INDEXED"

/-- Passes what a foreign key does when the row that it refers to changes. -/
def keyActions : Nat → Reader Unit
  | 0 => pure ()
  | steps + 1 => do
    if ← takesKeyword "MATCH" then
      let _ ← name
      keyActions steps
    else if ← takesKeyword "ON" then
      needsKeyword ["DELETE", "UPDATE", "INSERT"]
      if ← takesKeyword "SET" then needsKeyword ["NULL", "DEFAULT"]
      else if ← takesKeyword "NO" then needsKeyword ["ACTION"]
      else needsKeyword ["CASCADE", "RESTRICT"]
      keyActions steps

/-- Reads the table that a foreign key refers to, also as it is written, and the columns there.
-/
def keyTarget : Reader (Lexeme × List String) := do
  let table ← needs Lexeme.isName
  let columns ← if ← seesSign '(' then bracketed name else pure []
  repeated keyActions
  return (table, columns)

/-- Requires that what is ahead may follow: the end of an item or one of several keywords. -/
def settle (words : List String) : Reader Unit := do
  unless (← seesSign ',') || (← seesSign ')') || (← seesKeyword words) do refuse

end SchemaMarkup.Sql.Reader
