import SchemaMarkup.Text.Quoted

/-! JSON values and their text on one line: a blank after every comma and colon, members in
the order in which they are given, and only what must be escaped written as an escape.
-/

namespace SchemaMarkup

/-- A JSON value without floating-point numbers and truth values. -/
inductive Json where
  | null
  | string (s : String)
  | array (values : List Json)
  | object (members : List (String × Json))

namespace Json

/-- One character of a JSON string. -/
def escapeChar (c : Char) : List Char :=
  if c = '"' || c = '\\' then ['\\', c]
  else if c = '\n' then ['\\', 'n']
  else if c = '\r' then ['\\', 'r']
  else if c = '\t' then ['\\', 't']
  else if c = '\x08' then ['\\', 'b']
  else if c = '\x0c' then ['\\', 'f']
  else if c.toNat < 0x20 then '\\' :: 'u' :: Text.hexDigits 4 c.toNat
  else [c]

/-- A JSON string. -/
def quote (s : String) : String :=
  "\"" ++ String.ofList (s.toList.flatMap escapeChar) ++ "\""

mutual

/-- The text of a value. -/
def render : Json → String
  | null => "null"
  | string s => quote s
  | array values => "[" ++ ", ".intercalate (renderAll values) ++ "]"
  | object members => "\x7b" ++ ", ".intercalate (renderMembers members) ++ "\x7d"

/-- The texts of several values. -/
def renderAll : List Json → List String
  | [] => []
  | v :: vs => render v :: renderAll vs

/-- The texts of the members of an object. -/
def renderMembers : List (String × Json) → List String
  | [] => []
  | (k, v) :: ms => (quote k ++ ": " ++ render v) :: renderMembers ms

end

/-- A string, or null. -/
def ofOption : Option String → Json
  | some s => string s
  | none => null

end Json
end SchemaMarkup
