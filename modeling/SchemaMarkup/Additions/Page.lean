import SchemaMarkup.Additions.Summary

/-! The additions as a web page of its own. Every value is escaped where it is put in, so no
value can open or close an element or an attribute. The page is laid out for any way to escape
values.
-/

namespace SchemaMarkup

namespace Page

section

variable (escape : String → String)

/-- The head of the page. -/
def head (title : String) : List String := [
  "<!DOCTYPE html>",
  "<html lang=\"en\">",
  "<head>",
  "  <meta charset=\"utf-8\">",
  "  <title>" ++ escape title ++ "</title>",
  "  <style>",
  "    body \x7b font-family: system-ui, sans-serif; margin: 2rem; color: #222; \x7d",
  "    table \x7b border-collapse: collapse; margin-bottom: 1.5rem; \x7d",
  "    th, td \x7b border: 1px solid #ccc; padding: 0.3rem 0.6rem; text-align: left; \x7d",
  "    th \x7b background: #f3f3f3; \x7d",
  "    .new_table \x7b color: #1a7f37; \x7d",
  "    .new_fields \x7b color: #9a6700; \x7d",
  "    .empty \x7b color: #777; \x7d",
  "  </style>",
  "</head>"]

/-- A cell of a table. -/
def cell (value : String) : String :=
  "        <td>" ++ escape value ++ "</td>"

/-- A row of a table with the given lines for its cells. -/
def row (cells : List String) : List String :=
  "      <tr>" :: cells ++ ["      </tr>"]

/-- A table with one heading line and the given lines for its rows. -/
def table (headings : String) (rows : List String) : List String :=
  ["  <table>", "    <thead>", "      <tr>" ++ headings ++ "</tr>", "    </thead>",
    "    <tbody>"] ++ rows ++ ["    </tbody>", "  </table>"]

/-- The row of a table with additions in the overview. -/
def summaryRow (r : SummaryRow) : List String :=
  let kind := r.kind.entryName
  row [
    cell escape r.name,
    "        <td class=\"" ++ escape kind ++ "\">" ++ escape kind ++ "</td>",
    cell escape (toString r.fieldCount),
    cell escape r.description]

/-- The overview of all tables with additions. -/
def overview (rows : List SummaryRow) : List String :=
  table "<th>Table</th><th>Change</th><th>Fields</th><th>Description</th>"
    (rows.flatMap (summaryRow escape))

/-- The row of an added field. -/
def fieldRow (f : Field) : List String :=
  row [cell escape f.name, cell escape f.type, cell escape (f.note.getD "")]

/-- The added fields of one table under its name. -/
def details (name : String) (fields : List Field) : List String :=
  ("  <h2>" ++ escape name ++ "</h2>")
    :: table "<th>Field</th><th>Type</th><th>Note</th>" (fields.flatMap (fieldRow escape))

/-- What stands below the heading of the page. -/
def content (c : Additions) : List String :=
  match c.summary with
  | [] => ["  <p class=\"empty\">No changes found.</p>"]
  | r :: rs =>
    overview escape (r :: rs) ++ AdditionKind.all.flatMap fun s =>
      (c.entries s).entries.flatMap fun (name, fields) => details escape name fields

end

-----------------------------------------------------------------------------------------
-- Escaping
-----------------------------------------------------------------------------------------

/-- A character of a value as it is put into the page. -/
def escapeChar : Char → List Char
  | '&' => ['&', 'a', 'm', 'p', ';']
  | '<' => ['&', 'l', 't', ';']
  | '>' => ['&', 'g', 't', ';']
  | '\'' => ['&', '#', '3', '9', ';']
  | '"' => ['&', '#', '3', '4', ';']
  | c => [c]

/-- A value as it is put into the page. -/
def escaped (value : String) : String :=
  String.ofList (value.toList.flatMap escapeChar)

end Page

/-- The page that shows additions under a title, with its values escaped in some way. -/
def Additions.toPageBy (escape : String → String) (c : Additions) (title : String) : String :=
  "\n".intercalate (
    Page.head escape title
      ++ ["<body>", "  <h1>" ++ escape title ++ "</h1>"]
      ++ Page.content escape c
      ++ ["</body>", "</html>"])

/-- The page that shows additions under a title. -/
def Additions.toPage (c : Additions) (title : String) : String :=
  c.toPageBy Page.escaped title

end SchemaMarkup
