import SchemaMarkup.Error
import SchemaMarkup.Sql.Lexeme

/-! Reading the lexemes of SQL statements one after another. What cannot be read is refused at
the next lexeme.
-/

namespace SchemaMarkup.Sql

/-- Reads the lexemes ahead. -/
abbrev Reader := StateT (List Lexeme) (Except Error)

/-- The words that are no names unless they are quoted. -/
def keywords : List String := [
  "ADD", "ALL", "ALTER", "AND", "AS", "AUTOINCREMENT", "BETWEEN", "CASE", "CHECK", "COLLATE",
  "COMMIT", "CONSTRAINT", "CREATE", "DEFAULT", "DEFERRABLE", "DELETE", "DISTINCT", "DROP",
  "ELSE", "ESCAPE", "EXCEPT", "EXISTS", "FOREIGN", "FROM", "GROUP", "HAVING", "IN", "INDEX",
  "INSERT", "INTERSECT", "INTO", "IS", "ISNULL", "JOIN", "LIMIT", "NOT", "NOTHING", "NOTNULL",
  "NULL", "ON", "OR", "ORDER", "PRIMARY", "REFERENCES", "RETURNING", "SELECT", "SET", "TABLE",
  "THEN", "TO", "TRANSACTION", "UNION", "UNIQUE", "UPDATE", "USING", "VALUES", "WHEN", "WHERE"]

/-- The words that can be names but no parts of types. -/
def nameOnlyWords : List String :=
  ["CROSS", "FULL", "INDEXED", "INNER", "LEFT", "NATURAL", "OUTER", "RIGHT"]

namespace Lexeme

/-- Whether a lexeme can be a part of a type. -/
def isOfType (l : Lexeme) : Bool :=
  match l.kind with
  | .quotedName | .string => true
  | .word => decide (l.capitals ∉ keywords) && decide (l.capitals ∉ nameOnlyWords)
  | _ => false

/-- Whether a lexeme can be a name. -/
def isName (l : Lexeme) : Bool :=
  l.isOfType || l.kind = .word && decide (l.capitals ∈ nameOnlyWords)

end Lexeme

namespace Reader

/-- Refuses what is ahead. -/
def refuse {α : Type} : Reader α := do
  match ← get with
  | [] => throw .incompleteStatement
  | l :: _ =>
    let text := String.ofList l.text
    throw (if l.kind = .unreadable then .unreadableLexeme text else .unexpectedLexeme text)

/-- Whether a lexeme is ahead for which a condition holds. -/
def sees (p : Lexeme → Bool) : Reader Bool :=
  return (← get).head?.any p

/-- Whether one of several keywords is ahead. -/
def seesKeyword (words : List String) : Reader Bool :=
  sees fun l => words.any l.isKeyword

/-- Whether a sign is ahead. -/
def seesSign (sign : Char) : Reader Bool :=
  sees (·.isSign sign)

/-- Passes the next lexeme if a condition holds for it, and says whether it does. -/
def takes (p : Lexeme → Bool) : Reader Bool := do
  let isThere ← sees p
  if isThere then modify (·.drop 1)
  return isThere

/-- Passes a keyword if it is ahead. -/
def takesKeyword (word : String) : Reader Bool :=
  takes (·.isKeyword word)

/-- Passes a sign if it is ahead. -/
def takesSign (sign : Char) : Reader Bool :=
  takes (·.isSign sign)

/-- Takes the next lexeme, for which a condition has to hold. -/
def needs (p : Lexeme → Bool) : Reader Lexeme := do
  match ← get with
  | l :: ls =>
    if p l then
      set ls
      return l
    else refuse
  | [] => refuse

/-- Passes one of several keywords, which has to be ahead. -/
def needsKeyword (words : List String) : Reader Unit := do
  let _ ← needs fun l => words.any l.isKeyword

/-- Passes a sign, which has to be ahead. -/
def needsSign (sign : Char) : Reader Unit := do
  let _ ← needs (·.isSign sign)

/-- Reads a name. -/
def name : Reader String :=
  return (← needs Lexeme.isName).name

/-- Gives a repetition the number of lexemes ahead, which bounds its steps. -/
def repeated {α : Type} (step : Nat → Reader α) : Reader α := do
  step (← get).length

/-- Reads items up to the first that no comma follows. -/
def separated {α : Type} (item : Reader α) : Nat → Reader (List α)
  | 0 => refuse
  | steps + 1 => do
    let a ← item
    if ← takesSign ',' then return a :: (← separated item steps) else return [a]

/-- Reads items with commas between them, in brackets. -/
def bracketed {α : Type} (item : Reader α) : Reader (List α) := do
  needsSign '('
  let items ← repeated (separated item)
  needsSign ')'
  return items

/-- Passes what is in brackets of which `depth` inner ones are open, up to the closing one. -/
def passBrackets (depth : Nat) : List Lexeme → Except Error (List Lexeme)
  | [] => .error .incompleteStatement
  | l :: ls =>
    if l.kind = .unreadable then .error (.unreadableLexeme (String.ofList l.text))
    else if l.isSign ';' then .error (.unexpectedLexeme (String.ofList l.text))
    else if l.isSign '(' then passBrackets (depth + 1) ls
    else if l.isSign ')' then
      match depth with
      | 0 => .ok ls
      | depth + 1 => passBrackets depth ls
    else passBrackets depth ls

/-- Passes an expression in brackets, which are not empty. -/
def expression : Reader Unit := do
  needsSign '('
  if ← seesSign ')' then refuse
  set (← passBrackets 0 (← get))

end Reader
end SchemaMarkup.Sql
