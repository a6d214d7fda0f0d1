/-! Cutting a text into its lines at every Unicode line boundary. -/

namespace SchemaMarkup.Text

/-- The characters that end a line. -/
def isLineEnd (c : Char) : Bool :=
  let n := c.toNat
  (0x0A ≤ n && n ≤ 0x0D) || (0x1C ≤ n && n ≤ 0x1E) || n == 0x85 || n == 0x2028 || n == 0x2029

/-- The lines that follow an already read part of the first one, which is held in reverse. A
carriage return with its line feed is one boundary, and a boundary at the end of the text opens
no further line.
-/
def linesAfter (line : List Char) : List Char → List (List Char)
  | [] => if line.isEmpty then [] else [line.reverse]
  | '\r' :: '\n' :: cs => line.reverse :: linesAfter [] cs
  | c :: cs => if isLineEnd c then line.reverse :: linesAfter [] cs else linesAfter (c :: line) cs

/-- The lines of a text, without their boundaries. -/
def lines (s : String) : List String :=
  (linesAfter [] s.toList).map String.ofList

/-- A text with every carriage return, alone or before a line feed, turned into a line feed. -/
def unixLines : List Char → List Char
  | [] => []
  | '\r' :: '\n' :: cs => '\n' :: unixLines cs
  | c :: cs => (if c = '\r' then '\n' else c) :: unixLines cs

end SchemaMarkup.Text
