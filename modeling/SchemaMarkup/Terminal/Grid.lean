import SchemaMarkup.Terminal.Styled
import SchemaMarkup.Terminal.Wrap
import SchemaMarkup.Text.Lines

/-! Tables drawn with box characters under a title. A column is as wide as its widest line,
and a row as high as its highest cell.
-/

namespace SchemaMarkup.Terminal

/-- A column of a table to be drawn. -/
structure GridColumn where
  heading : String
  cells : List String
deriving DecidableEq, Repr, Inhabited

/-- A table to be drawn. Its columns have equally many cells. -/
structure Grid where
  title : String
  columns : List GridColumn
deriving DecidableEq, Repr, Inhabited

/-- The width that a text needs, whatever white space its tabs come to. -/
def naturalWidth (text : List Char) : Nat :=
  ((Text.linesAfter [] text).map width).foldl max 0

/-- A column to be drawn: its width and the lines of its cells, the heading first. -/
structure DrawnColumn where
  target : Nat
  cells : List (List (List Char))
deriving DecidableEq, Repr, Inhabited

/-- A column with its cells broken into lines. -/
def GridColumn.drawn (c : GridColumn) : Except Error DrawnColumn := do
  let texts ← (c.heading :: c.cells).mapM shown
  let target := (texts.map naturalWidth).foldl max 0
  return ⟨target, texts.map (wrap target)⟩

/-- One line across the table: its left end, what separates columns, and its right end. -/
def ruledLine (left middle right : String) (parts : List String) : String :=
  left ++ middle.intercalate parts ++ right

/-- A line of one repeated character in every column. -/
def ruler (left fill middle right : String) (columns : List DrawnColumn) : String :=
  ruledLine left middle right
    (columns.map fun c => String.join (List.replicate (c.target + 2) fill))

/-- The lines of a row between vertical bars. -/
def rowLines (bar : String) (columns : List DrawnColumn) (row : Nat) : List String :=
  let cells := columns.map fun c => (c.target, (c.cells[row]?).getD [])
  let height := (cells.map fun (_, lines) => lines.length).foldl max 0
  (List.range height).map fun i =>
    ruledLine bar bar bar (cells.map fun (target, lines) =>
      " " ++ String.ofList ((lines[i]?).getD (padded target [])) ++ " ")

/-- A title in the middle of a width, a little to the left where it cannot be exact. -/
def centered (target : Nat) (title : List Char) : List Char :=
  let margin := (target - width title) / 2
  padded target (List.replicate margin ' ' ++ title)

/-- The text of a table, every line ended. -/
def Grid.draw (g : Grid) : Except Error String := do
  let columns ← g.columns.mapM GridColumn.drawn
  let total := (columns.map (·.target + 3)).foldl (· + ·) 1
  let rowCount := (g.columns.map (·.cells.length)).foldl max 0
  let lines :=
    [String.ofList (centered total g.title.toList), ruler "┏" "━" "┳" "┓" columns]
      ++ rowLines "┃" columns 0
      ++ [ruler "┡" "━" "╇" "┩" columns]
      ++ (List.range rowCount).flatMap (fun i => rowLines "│" columns (i + 1))
      ++ [ruler "└" "─" "┴" "┘" columns]
  return String.join (lines.map (· ++ "\n"))

end SchemaMarkup.Terminal
