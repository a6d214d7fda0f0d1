import SchemaMarkup.Markup.Document
import SchemaMarkup.Text.Lines
import SchemaMarkup.Text.Search

/-! Working on schema text without reading it as a whole: taking it out of a fenced code
block, listing the tables it names, and cutting one table out of it.
-/

namespace SchemaMarkup.Markup

open Text

/-- The three backticks that fence a code block. -/
def codeFence : List Char :=
  ['\x60', '\x60', '\x60']

/-- Whether a character may be part of the language tag of a fence. -/
def isTagChar (c : Char) : Bool :=
  isWord c || c = '-'

/-- The text after an opening fence, its language tag and white space. -/
def afterOpeningFence (cs : List Char) : List Char :=
  trimLeft ((cs.drop 3).dropWhile isTagChar)

/-- The text without a closing fence at its end and without a line feed before that fence. -/
def beforeClosingFence (cs : List Char) : List Char :=
  if codeFence.isSuffixOf cs then
    let body := cs.take (cs.length - 3)
    if body.getLast? = some '\n' then body.dropLast else body
  else cs

/-- Text that came inside a fenced code block, without the fence, percent signs and outer
white space.
-/
def withoutFence (text : String) : String :=
  let cs := trim text.toList
  let cs := if codeFence.isPrefixOf cs then beforeClosingFence (afterOpeningFence cs) else cs
  String.ofList (trim (cs.filter (· ≠ '%')))

/-- The tables named by the heading lines of a text, in order. -/
def declaredTables (text : String) : List String :=
  (Token.scan text).filterMap fun
    | .text s _ _ => tableHeading? s
    | _ => none

/-- The name after the keyword of a line that starts like a table heading. -/
def tableLineName? (line : List Char) : Option String := do
  let cs ← Scan.keyword ['t', 'a', 'b', 'l', 'e'] (Scan.blanks line)
  let cs ← Scan.someBlanks cs
  let (name, _) ← Scan.dottedName cs
  return readName (String.ofList name)

/-- The number of braces opened less the number closed on a line. -/
def braceBalance (line : List Char) : Int :=
  line.count '\x7b' - line.count '\x7d'

/-- The lines up to the one that closes a block, given the balance of the braces before them
and whether a brace was opened there.
-/
def linesToBlockEnd (depth : Int) (opened : Bool) : List String → List String
  | [] => []
  | line :: lines =>
    let depth := depth + braceBalance line.toList
    let opened := opened || line.toList.contains '\x7b'
    if depth ≤ 0 && opened then [line] else line :: linesToBlockEnd depth opened lines

/-- The lines of the block that declares a table, if there is one. -/
def tableText? (text name : String) : Option String :=
  match (lines text).dropWhile (tableLineName? ·.toList ≠ some name) with
  | [] => none
  | line :: rest => some ("\n".intercalate (linesToBlockEnd 0 false (line :: rest)))

end SchemaMarkup.Markup
