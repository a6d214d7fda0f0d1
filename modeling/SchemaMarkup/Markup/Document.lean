import SchemaMarkup.Error
import SchemaMarkup.Markup.Statement

/-! Reading a whole schema text. A text is refused unless it declares a table and its braces
pair up; otherwise every statement it makes contributes to the schema in order.
-/

namespace SchemaMarkup

namespace Markup

/-- Whether a token is a line of text that could head a table. -/
def Token.isTableHeading : Token → Bool
  | .text s _ _ => (tableHeading? s).isSome
  | _ => false

/-- Whether a token is an opening brace. -/
def Token.isOpening : Token → Bool
  | .opening _ => true
  | _ => false

/-- Whether a token is a closing brace. -/
def Token.isClosing : Token → Bool
  | .closing _ => true
  | _ => false

/-- Whether the braces pair up when a number of them is open already. -/
def bracesPair (depth : Nat) : List Token → Bool
  | [] => depth = 0
  | .opening _ :: ts => bracesPair (depth + 1) ts
  | .closing _ :: ts =>
    match depth with
    | 0 => false
    | d + 1 => bracesPair d ts
  | .text _ _ _ :: ts => bracesPair depth ts

/-- The fault of a token sequence that cannot be read: no table heading first, then braces
that do not pair up.
-/
def fault? (ts : List Token) : Option Error :=
  if !ts.any Token.isTableHeading then some .noTables
  else if !bracesPair 0 ts then
    some (.unbalancedBraces (ts.countP Token.isOpening) (ts.countP Token.isClosing))
  else none

/-- The schema that statements make up. -/
def schemaOf (statements : List Statement) : Schema where
  tables := statements.filterMap Statement.table?
  refs := statements.flatMap Statement.refs
  groups := statements.filterMap Statement.group?

end Markup

namespace Schema

/-- Read a schema from its text. -/
def ofText (text : String) : Except Error Schema :=
  let tokens := Markup.Token.scan text
  match Markup.fault? tokens with
  | some e => .error e
  | none => .ok (Markup.schemaOf (Markup.Statement.ofTokens tokens))

/-- The table names that are declared more than once, in order of first declaration. -/
def repeatedNames (s : Schema) : List String :=
  s.tableNames.eraseDups.filter fun name => 1 < s.tableNames.count name

/-- The schema itself if its table names are distinct. -/
def validate (s : Schema) : Except Error Schema :=
  if s.repeatedNames.isEmpty then .ok s else .error (.duplicateTables s.repeatedNames)

end Schema
end SchemaMarkup
