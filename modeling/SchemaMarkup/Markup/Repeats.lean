import SchemaMarkup.Markup.FieldLine
import SchemaMarkup.Markup.RefLine
import SchemaMarkup.Relation.Relationship

/-! Dropping repeated declarations from schema text, line by line: fields that repeat a name
inside one table block, and references that repeat a relationship anywhere. Lines joined by a
string between triple quotes count as one. All other lines are kept as they are.
-/

namespace SchemaMarkup.Markup

open Text

/-- Whether a line holds an odd number of triple quotes, counted from left to right. -/
def oddTripleQuotes : List Char → Bool
  | '\'' :: '\'' :: '\'' :: cs => !oddTripleQuotes cs
  | _ :: cs => oddTripleQuotes cs
  | [] => false

/-- The logical lines of what follows an unfinished one, if there is one: a line goes on as
long as a string between triple quotes is open.
-/
def logicalLinesAfter : Option (List Char) → List (List Char) → List (List Char)
  | pending, [] => pending.toList
  | none, line :: lines =>
    if oddTripleQuotes line then logicalLinesAfter (some line) lines
    else line :: logicalLinesAfter none lines
  | some pending, line :: lines =>
    let joined := pending ++ '\n' :: line
    if oddTripleQuotes line then joined :: logicalLinesAfter none lines
    else logicalLinesAfter (some joined) lines

/-- The logical lines of a text. -/
def logicalLines (text : List Char) : List (List Char) :=
  logicalLinesAfter none (text.splitOn '\n')

-----------------------------------------------------------------------------------------
-- What a line is, judged by itself
-----------------------------------------------------------------------------------------

/-- Whether a line opens a table block: a heading with its opening brace at the end. -/
def opensTable (line : List Char) : Bool :=
  let rest := do
    let cs ← Scan.keyword ['t', 'a', 'b', 'l', 'e'] (Scan.blanks line)
    let cs ← Scan.someBlanks cs
    let (_, cs) ← Scan.dottedName cs
    Scan.char '\x7b' (cs.dropWhile (· ≠ '\x7b'))
  match rest with
  | some cs => cs.all isBlank
  | none => false

/-- Whether a line holds a closing brace alone. -/
def closesBlock (line : List Char) : Bool :=
  trim line = ['\x7d']

/-- Whether a line ends with an opening brace. -/
def endsWithOpening (line : List Char) : Bool :=
  (trimRight line).getLast? = some '\x7b'

/-- The name of the field that a line inside a table declares. -/
def declaredField? (line : List Char) : Option String := do
  let (name, cs) ← Scan.name (Scan.blanks line)
  match ← Scan.someBlanks cs with
  | [] => none
  | c :: _ => if c = '\x7b' then none else some (readName (String.ofList name))

/-- The relationship that a line declares, whatever its cardinality. -/
def declaredKey? (c : Conventions) (line : List Char) : Option Relationship := do
  let (r, _) ← scanRef (Scan.blanks line)
  return .between c false r.sourceTable r.sourceField r.targetTable r.targetField

-----------------------------------------------------------------------------------------
-- Which lines are kept depends on the lines before them
-----------------------------------------------------------------------------------------

/-- A table block that is open: the fields it has declared and the number of inner blocks
that are open.
-/
structure OpenTable where
  declared : List String := []
  inner : Nat := 0
deriving DecidableEq, Repr

/-- What a line does to the table block around it, if there is one; nothing if it repeats a
field and is to be dropped.
-/
def OpenTable.step? (block : Option OpenTable) (line : List Char)
    : Option (Option OpenTable) :=
  match block with
  | none => some (if opensTable line then some {} else none)
  | some t =>
    if closesBlock line then
      match t.inner with
      | 0 => some none
      | n + 1 => some (some { t with inner := n })
    else if endsWithOpening line then some (some { t with inner := t.inner + 1 })
    else if t.inner ≠ 0 then some (some t)
    else match declaredField? line with
      | none => some (some t)
      | some name =>
        if lower name = "note" then some (some t)
        else if name ∈ t.declared then none
        else some (some { t with declared := name :: t.declared })

/-- The lines that are kept, given the table block that is open and the relationships that
were declared before them.
-/
def linesWithoutRepeats (c : Conventions) (block : Option OpenTable) (keys : List Relationship)
    : List (List Char) → List (List Char)
  | [] => []
  | line :: lines =>
    match declaredKey? c line with
    | some key =>
      if key ∈ keys then linesWithoutRepeats c block keys lines
      else line :: linesWithoutRepeats c block (key :: keys) lines
    | none =>
      match OpenTable.step? block line with
      | none => linesWithoutRepeats c block keys lines
      | some block => line :: linesWithoutRepeats c block keys lines

/-- A schema text without repeated declarations. -/
def withoutRepeats (c : Conventions) (text : String) : String :=
  String.ofList (['\n'].intercalate (linesWithoutRepeats c none [] (logicalLines text.toList)))

end SchemaMarkup.Markup
