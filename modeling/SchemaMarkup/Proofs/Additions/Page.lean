import Mathlib.Data.List.Forall2
import SchemaMarkup.Additions.Page
import SchemaMarkup.Proofs.Markup.Layout

/-! The page of additions, as its readers see it. What marks it up depends on how many tables and
fields are added and on nothing that they or the title say, and the values that a reader finds in it
are those it was made from.
-/

namespace SchemaMarkup

namespace Page

-----------------------------------------------------------------------------------------
-- What a page is made of
-----------------------------------------------------------------------------------------

/-- Whether a character opens or closes a tag or the value of an attribute. -/
def isMarkup (c : Char) : Bool :=
  c = '<' || c = '>' || c = '"' || c = '\''

/-- The markup characters of a text in order. -/
def markup (s : String) : List Char :=
  s.toList.filter isMarkup

/-- The text that is shown for a text of the page: the five character references of a page stand for
their characters.
-/
def unescape : List Char → List Char
  | '&' :: 'a' :: 'm' :: 'p' :: ';' :: cs => '&' :: unescape cs
  | '&' :: 'l' :: 't' :: ';' :: cs => '<' :: unescape cs
  | '&' :: 'g' :: 't' :: ';' :: cs => '>' :: unescape cs
  | '&' :: '#' :: '3' :: '9' :: ';' :: cs => '\'' :: unescape cs
  | '&' :: '#' :: '3' :: '4' :: ';' :: cs => '"' :: unescape cs
  | c :: cs => c :: unescape cs
  | [] => []

/-- The elements whose text is a value. -/
def valueElements : List String :=
  ["title", "h1", "h2", "td"]

/-- Where a reader of a page is: outside of values, in the name of a tag, further on in a tag, or in
a value. What has been read of a name or a value is held in reverse.
-/
inductive Place where
  | outside
  | inTag (name : List Char)
  | afterName (name : String)
  | inValue (element : String) (text : List Char)
deriving DecidableEq, Repr

/-- Where a tag leads. -/
def Place.entered (element : String) : Place :=
  if element ∈ valueElements then .inValue element [] else .outside

/-- One character read, with the value that ends there, if one does, beside its element. -/
def step : Place → Char → List (String × String) × Place
  | .outside, c => ([], if c = '<' then .inTag [] else .outside)
  | .inTag name, c =>
    let element := String.ofList name.reverse
    ([], if c = '>' then .entered element else if c = ' ' then .afterName element
      else .inTag (c :: name))
  | .afterName element, c => ([], if c = '>' then .entered element else .afterName element)
  | .inValue element text, c =>
    if c = '<' then ([(element, String.ofList (unescape text.reverse))], .inTag [])
    else ([], .inValue element (c :: text))

/-- The values in a text that is read from some place on, and the place to which it leads. -/
def read : Place → List Char → List (String × String) × Place
  | place, [] => ([], place)
  | place, c :: cs =>
    let (values, next) := step place c
    let (rest, last) := read next cs
    (values ++ rest, last)

/-- The values of a page with the elements they stand in, as a reader finds them in its text. -/
def values (page : String) : List (String × String) :=
  (read .outside page.toList).1

/-- Values that stand in the cells of a table. -/
def inCells (values : List String) : List (String × String) :=
  values.map ("td", ·)

/-- What the overview shows of a table with additions. -/
def shownOfRow (r : SummaryRow) : List (String × String) :=
  inCells [r.name, r.kind.entryName, toString r.fieldCount, r.description]

/-- What the page shows of an added field. -/
def shownOfField (f : Field) : List (String × String) :=
  inCells [f.name, f.type, f.note.getD ""]

/-- What the page shows of the additions to one table. -/
def shownOfTable (name : String) (fields : List Field) : List (String × String) :=
  ("h2", name) :: fields.flatMap shownOfField

/-- The values that the page of additions has to show, with the elements to show them in. -/
def shown (c : Additions) (title : String) : List (String × String) :=
  [("title", title), ("h1", title)] ++ c.summary.flatMap shownOfRow
    ++ AdditionKind.all.flatMap fun s => (c.entries s).entries.flatMap fun (name, fields) =>
      shownOfTable name fields

end Page

/-- Whether additions have the same shape: for each kind as many tables, and in order tables with as
many fields.
-/
def Additions.SameShape (c c' : Additions) : Prop :=
  ∀ s, List.Forall₂ (fun e e' => e.2.length = e'.2.length) (c.entries s).entries
    (c'.entries s).entries

namespace Page

-----------------------------------------------------------------------------------------
-- Escaped values
-----------------------------------------------------------------------------------------

/-- The characters that are not put into a page as they are. -/
def specialChars : List Char :=
  ['&', '<', '>', '\'', '"']

theorem mem_specialChars {c : Char}
    : c ∈ specialChars ↔ c = '&' ∨ c = '<' ∨ c = '>' ∨ c = '\'' ∨ c = '"' := by
  simp [specialChars]

/-- What is relied on in the way the values of a page are escaped. -/
structure Escapes (escape : String → String) (reference : Char → List Char) : Prop where
  /-- The special characters of a value are replaced by references, and the others are kept. -/
  toList_eq
    : ∀ value, (escape value).toList
        = value.toList.flatMap fun c => if c ∈ specialChars then reference c else [c]
  /-- References are safe: they bring no markup in. -/
  isMarkup_eq_false : ∀ c ∈ specialChars, ∀ d ∈ reference c, isMarkup d = false
  /-- The reference for a character is shown as the character. -/
  unescape_append : ∀ c ∈ specialChars, ∀ cs, unescape (reference c ++ cs) = c :: unescape cs

/-- The values of a page are escaped by such references. -/
theorem escapes_escaped : Escapes escaped escapeChar where
  toList_eq value := by
    rw [escaped, String.toList_ofList]
    refine congrArg (List.flatMap · _) (funext fun c => ?_)
    split
    · rfl
    · rename_i plain
      simp only [mem_specialChars, not_or] at plain
      simp [escapeChar, plain]
  isMarkup_eq_false := by simp [specialChars, escapeChar, isMarkup]
  unescape_append c special cs := by
    rcases mem_specialChars.mp special with rfl | rfl | rfl | rfl | rfl <;> rfl

/-- A character is shown as it is if no reference begins with it. -/
theorem unescape_cons {c : Char} (plain : c ∉ specialChars) (cs : List Char)
    : unescape (c :: cs) = c :: unescape cs := by
  rw [unescape]
  all_goals
    rintro _ rfl
    exact fun _ => plain (by decide)

namespace Escapes

variable {escape : String → String} {reference : Char → List Char}
  (escapes : Escapes escape reference)

include escapes

/-- No value brings markup in: its special characters do not, and the others are no markup. -/
theorem markup_escape (value : String)
    : markup (escape value) = [] := by
  rw [markup, escapes.toList_eq, List.filter_eq_nil_iff]
  intro d hd
  obtain ⟨c, _, hd⟩ := List.mem_flatMap.mp hd
  split at hd
  · rename_i special
    simp [escapes.isMarkup_eq_false c special d hd]
  · rename_i plain
    obtain rfl := List.mem_singleton.mp hd
    simp only [mem_specialChars, not_or] at plain
    simp [isMarkup, plain]

/-- What is escaped is shown as it was, by induction. -/
theorem unescape_escape (value : String)
    : unescape (escape value).toList = value.toList := by
  rw [escapes.toList_eq]
  generalize value.toList = cs
  induction cs with
  | nil => rfl
  | cons c cs ih =>
      rw [List.flatMap_cons]
      split
      · rename_i special
        rw [escapes.unescape_append c special, ih]
      · rename_i plain
        rw [List.singleton_append, unescape_cons plain, ih]

/-- The characters of an escaped value are no markup. -/
theorem isMarkup_of_mem {value : String} {c : Char} (hc : c ∈ (escape value).toList)
    : isMarkup c = false := by
  simpa using List.filter_eq_nil_iff.mp (escapes.markup_escape value) c hc

end Escapes

-----------------------------------------------------------------------------------------
-- The markup of a page
-----------------------------------------------------------------------------------------

theorem markup_append (s t : String)
    : markup (s ++ t) = markup s ++ markup t := by
  rw [markup, String.toList_append, List.filter_append]
  rfl

/-- The markup characters of some lines in order. -/
def linesMarkup (lines : List String) : List Char :=
  lines.flatMap markup

theorem linesMarkup_cons (l : String) (ls : List String)
    : linesMarkup (l :: ls) = markup l ++ linesMarkup ls :=
  List.flatMap_cons

theorem linesMarkup_append (ls ms : List String)
    : linesMarkup (ls ++ ms) = linesMarkup ls ++ linesMarkup ms :=
  List.flatMap_append

/-- Line feeds between lines are no markup. -/
theorem markup_intercalate {lines : List String} (nonempty : lines ≠ [])
    : markup ("\n".intercalate lines) = linesMarkup lines := by
  have joined := congrArg (List.filter isMarkup) (Markup.toList_intercalate_lines nonempty)
  have feed (l : String) : (l.toList ++ ['\n']).filter isMarkup = markup l := by
    rw [List.filter_append]
    exact List.append_nil _
  rw [List.filter_append, List.filter_flatMap] at joined
  simp only [feed] at joined
  exact (List.append_nil _).symm.trans joined

/-- Lines that are made for one thing after the other have the same markup if those for each of the
things have. By induction on the things.
-/
theorem linesMarkup_flatMap {α : Type} {made made' : α → List String} {as bs : List α}
    (h : List.Forall₂ (fun a b => linesMarkup (made a) = linesMarkup (made' b)) as bs)
    : linesMarkup (as.flatMap made) = linesMarkup (bs.flatMap made') := by
  induction h with
  | nil => rfl
  | cons one _ ih =>
      rw [List.flatMap_cons, List.flatMap_cons, linesMarkup_append, linesMarkup_append, one, ih]

/-- Rows of one kind have the same markup if there are as many of them. -/
theorem linesMarkup_rows {α : Type} {made : α → List String}
    (alike : ∀ a b, linesMarkup (made a) = linesMarkup (made b)) {as bs : List α}
    (length : as.length = bs.length)
    : linesMarkup (as.flatMap made) = linesMarkup (bs.flatMap made) :=
  linesMarkup_flatMap (List.forall₂_iff_zip.mpr ⟨length, fun _ => alike _ _⟩)

theorem linesMarkup_table {headings : String} {rows rows' : List String}
    (h : linesMarkup rows = linesMarkup rows')
    : linesMarkup (table headings rows) = linesMarkup (table headings rows') := by
  simp only [table, linesMarkup_append, h]

/-- Additions of the same shape have overviews of the same length. -/
theorem length_summary {c c' : Additions} (same : c.SameShape c')
    : c.summary.length = c'.summary.length := by
  simp [Additions.summary, AdditionKind.all, (same _).length_eq]

section

variable {escape : String → String} {reference : Char → List Char}
  (escapes : Escapes escape reference)

include escapes

theorem markup_cell (value : String)
    : markup (cell escape value) = ['<', '>', '<', '>'] := by
  rw [cell, markup_append, markup_append, escapes.markup_escape]
  rfl

theorem linesMarkup_fieldRow (f f' : Field)
    : linesMarkup (fieldRow escape f) = linesMarkup (fieldRow escape f') := by
  simp [linesMarkup, fieldRow, row, markup_cell escapes]

theorem linesMarkup_summaryRow (r r' : SummaryRow)
    : linesMarkup (summaryRow escape r) = linesMarkup (summaryRow escape r') := by
  simp [linesMarkup, summaryRow, row, markup_append, markup_cell escapes, escapes.markup_escape]

theorem linesMarkup_details (name name' : String) {fields fields' : List Field}
    (length : fields.length = fields'.length)
    : linesMarkup (details escape name fields) = linesMarkup (details escape name' fields') := by
  have heading (name : String)
      : markup ("  <h2>" ++ escape name ++ "</h2>") = ['<', '>', '<', '>'] := by
    rw [markup_append, markup_append, escapes.markup_escape]
    rfl
  have rows := linesMarkup_rows (linesMarkup_fieldRow escapes) length
  rw [details, details, linesMarkup_cons, linesMarkup_cons, heading, heading,
    linesMarkup_table rows]

/-- Below its heading the markup of a page depends on the shape only, by whether there are rows. -/
theorem linesMarkup_content {c c' : Additions} (same : c.SameShape c')
    : linesMarkup (content escape c) = linesMarkup (content escape c') := by
  have rows := length_summary same
  rw [content, content]
  cases h : c.summary with
  | nil =>
      rw [h] at rows
      rw [List.length_eq_zero_iff.mp rows.symm]
  | cons r rs =>
      cases h' : c'.summary with
      | nil => simp [h, h'] at rows
      | cons r' rs' =>
          rw [h, h'] at rows
          dsimp only
          rw [linesMarkup_append, linesMarkup_append, overview, overview,
            linesMarkup_table (linesMarkup_rows (linesMarkup_summaryRow escapes) rows)]
          refine congrArg _ (linesMarkup_flatMap (List.forall₂_same.mpr fun s _ => ?_))
          exact linesMarkup_flatMap
            ((same s).imp fun _ _ length => linesMarkup_details escapes _ _ length)

theorem markup_toPageBy {c c' : Additions} (same : c.SameShape c') (title title' : String)
    : markup (c.toPageBy escape title) = markup (c'.toPageBy escape title') := by
  rw [Additions.toPageBy, Additions.toPageBy, markup_intercalate (by simp),
    markup_intercalate (by simp)]
  simp only [linesMarkup_append, linesMarkup_content escapes same]
  simp [linesMarkup, head, markup_append, escapes.markup_escape]

end

-----------------------------------------------------------------------------------------
-- The values in a page
-----------------------------------------------------------------------------------------

/-- Reading goes on where it has led. -/
theorem read_append (place : Place) (cs ds : List Char)
    : read place (cs ++ ds)
      = ((read place cs).1 ++ (read (read place cs).2 ds).1, (read (read place cs).2 ds).2) := by
  induction cs generalizing place with
  | nil => rfl
  | cons c cs ih => simp [read, ih]

/-- Inside of a value, a text without opening marks belongs to the value, by induction. -/
theorem read_inValue (element : String) (text : List Char) {cs : List Char} (h : ∀ c ∈ cs, c ≠ '<')
    : read (.inValue element text) cs = ([], .inValue element (cs.reverse ++ text)) := by
  induction cs generalizing text with
  | nil => rfl
  | cons c cs ih =>
      obtain ⟨hc, hcs⟩ := List.forall_mem_cons.mp h
      simp [read, step, hc, ih _ hcs]

/-- Further on in a tag, a text without closing marks leads nowhere, by induction. -/
theorem read_afterName (element : String) {cs : List Char} (h : ∀ c ∈ cs, c ≠ '>')
    : read (.afterName element) cs = ([], .afterName element) := by
  induction cs with
  | nil => rfl
  | cons c cs ih =>
      obtain ⟨hc, hcs⟩ := List.forall_mem_cons.mp h
      simp [read, step, hc, ih hcs]

/-- Whether lines, read from outside of values on, show some values and lead outside again. -/
def Shows (lines : List String) (shown : List (String × String)) : Prop :=
  read .outside (Markup.ended lines) = (shown, .outside)

instance (lines : List String) (shown : List (String × String)) : Decidable (Shows lines shown) :=
  inferInstanceAs (Decidable (_ = _))

theorem Shows.append {ls ms : List String} {vs ws : List (String × String)} (h : Shows ls vs)
    (h' : Shows ms ws)
    : Shows (ls ++ ms) (vs ++ ws) := by
  rw [Shows] at h h' ⊢
  rw [Markup.ended, List.flatMap_append, ← Markup.ended, ← Markup.ended, read_append, h, h']

theorem Shows.flatMap {α : Type} {made : α → List String} {shown : α → List (String × String)}
    (h : ∀ a, Shows (made a) (shown a)) (as : List α)
    : Shows (as.flatMap made) (as.flatMap shown) := by
  induction as with
  | nil => rfl
  | cons a as ih => exact (h a).append ih

/-- Lines without values around lines that show some. -/
theorem Shows.around {before ls after : List String} {vs : List (String × String)} (h : Shows ls vs)
    (hb : Shows before []) (ha : Shows after [])
    : Shows (before ++ ls ++ after) vs := by
  have all := (hb.append h).append ha
  rwa [List.nil_append, List.append_nil] at all

theorem Shows.row {cells : List String} {vs : List (String × String)} (h : Shows cells vs)
    : Shows (row cells) vs := by
  have opens : Shows ["      <tr>"] [] := by decide +kernel
  have closes : Shows ["      </tr>"] [] := by decide +kernel
  exact h.around opens closes

/-- A table shows what its rows show if its headings show nothing. -/
theorem Shows.table {rows : List String} {vs : List (String × String)} (h : Shows rows vs)
    {headings : String}
    (silent : Shows ["  <table>", "    <thead>", "      <tr>" ++ headings ++ "</tr>",
      "    </thead>", "    <tbody>"] [])
    : Shows (table headings rows) vs := by
  have closes : Shows ["    </tbody>", "  </table>"] [] := by decide +kernel
  exact h.around silent closes

/-- What a reader finds in lines that show values. -/
theorem values_intercalate {lines : List String} (nonempty : lines ≠ [])
    {vs : List (String × String)} (h : Shows lines vs)
    : values ("\n".intercalate lines) = vs := by
  have feed (place : Place) : (read place ['\n']).1 = [] := by
    cases place <;> rfl
  have all := congrArg Prod.fst h
  rw [Markup.ended, ← Markup.toList_intercalate_lines nonempty, read_append] at all
  dsimp only at all
  rwa [feed, List.append_nil] at all

section

variable {escape : String → String} {reference : Char → List Char}
  (escapes : Escapes escape reference)

include escapes

/-- An escaped value between two tags is shown as the value. -/
theorem shows_value {before after element : String}
    (enters : read .outside before.toList = ([], .inValue element []))
    (leaves : ∀ text, read (.inValue element text) (after.toList ++ ['\n'])
      = ([(element, String.ofList (unescape text.reverse))], .outside)) (value : String)
    : Shows [before ++ escape value ++ after] [(element, value)] := by
  have inside : ∀ c ∈ (escape value).toList, c ≠ '<' := by
    rintro _ opening rfl
    cases escapes.isMarkup_of_mem opening
  rw [Shows, Markup.ended, List.flatMap_singleton, String.toList_append, String.toList_append,
    List.append_assoc, List.append_assoc, read_append, enters, read_append,
    read_inValue _ _ inside, leaves]
  simp [escapes.unescape_escape]

theorem shows_cell (value : String)
    : Shows [cell escape value] [("td", value)] :=
  shows_value escapes (by decide +kernel) (fun _ => rfl) value

/-- A value in an attribute does not close the tag. -/
theorem read_afterName_escape (element value : String)
    : read (.afterName element) (escape value).toList = ([], .afterName element) := by
  refine read_afterName element ?_
  rintro _ closing rfl
  cases escapes.isMarkup_of_mem closing

theorem shows_fieldRow (f : Field)
    : Shows (fieldRow escape f) (shownOfField f) :=
  (((shows_cell escapes f.name).append (shows_cell escapes f.type)).append
    (shows_cell escapes (f.note.getD ""))).row

/-- The cell of the kind shows the kind, which its tag also holds in an attribute. -/
theorem shows_summaryRow (r : SummaryRow)
    : Shows (summaryRow escape r) (shownOfRow r) := by
  have kind : Shows ["        <td class=\"" ++ escape r.kind.entryName ++ "\">"
      ++ escape r.kind.entryName ++ "</td>"] [("td", r.kind.entryName)] := by
    refine shows_value escapes ?_ (fun _ => rfl) _
    have opens : read .outside "        <td class=\"".toList = ([], .afterName "td") := by
      decide +kernel
    rw [String.toList_append, String.toList_append, read_append, read_append, opens,
      read_afterName_escape escapes]
    decide +kernel
  exact ((((shows_cell escapes r.name).append kind).append
    (shows_cell escapes (toString r.fieldCount))).append (shows_cell escapes r.description)).row

theorem shows_overview (rows : List SummaryRow)
    : Shows (overview escape rows) (rows.flatMap shownOfRow) :=
  .table (.flatMap (shows_summaryRow escapes) rows) (by decide +kernel)

theorem shows_details (name : String) (fields : List Field)
    : Shows (details escape name fields) (shownOfTable name fields) := by
  have heading : Shows ["  <h2>" ++ escape name ++ "</h2>"] [("h2", name)] :=
    shows_value escapes (by decide +kernel) (fun _ => rfl) name
  exact heading.append (.table (.flatMap (shows_fieldRow escapes) fields) (by decide +kernel))

/-- Below its heading the page shows the overview and then the tables, by whether there are any. -/
theorem shows_content (c : Additions)
    : Shows (content escape c) (c.summary.flatMap shownOfRow
      ++ AdditionKind.all.flatMap fun s => (c.entries s).entries.flatMap fun (name, fields) =>
        shownOfTable name fields) := by
  rw [content]
  cases h : c.summary with
  | nil =>
      have empty (s : AdditionKind) : (c.entries s).entries = [] := by
        cases s <;> simp_all [Additions.summary, AdditionKind.all]
      simp only [empty, List.flatMap_nil, AdditionKind.all, List.flatMap_cons, List.append_nil]
      decide +kernel
  | cons r rs =>
      have tables (s : AdditionKind)
          : Shows ((c.entries s).entries.flatMap fun (name, fields) => details escape name fields)
            ((c.entries s).entries.flatMap fun (name, fields) => shownOfTable name fields) :=
        .flatMap (fun (name, fields) => shows_details escapes name fields) _
      exact (shows_overview escapes (r :: rs)).append (.flatMap tables AdditionKind.all)

theorem values_toPageBy (c : Additions) (title : String)
    : values (c.toPageBy escape title) = shown c title := by
  have pageTitle : Shows ["  <title>" ++ escape title ++ "</title>"] [("title", title)] :=
    shows_value escapes (by decide +kernel) (fun _ => rfl) title
  have heading : Shows ["  <h1>" ++ escape title ++ "</h1>"] [("h1", title)] :=
    shows_value escapes (by decide +kernel) (fun _ => rfl) title
  -- The other lines of the head depend neither on the title nor on how it is escaped.
  have before : Shows ((head id "").take 4) [] := by decide +kernel
  have after : Shows ((head id "").drop 5) [] := by decide +kernel
  have body : Shows ["<body>"] [] := by decide +kernel
  have ends : Shows ["</body>", "</html>"] [] := by decide +kernel
  have top : Shows (head escape title) [("title", title)] := by
    have split : head escape title
        = (head id "").take 4 ++ ["  <title>" ++ escape title ++ "</title>"]
          ++ (head id "").drop 5 := rfl
    rw [split]
    exact pageTitle.around before after
  have all := ((top.append (body.append heading)).append (shows_content escapes c)).append ends
  rw [List.append_nil] at all
  rw [shown, List.append_assoc]
  exact values_intercalate (by simp) all

end

/-- Whatever references the values of a page are escaped by: additions of the same shape make pages
with the same markup under any titles, whatever their names, types, notes and descriptions say; and
what a reader finds in a page are the values it was made from.
-/
theorem markup_follows_shape {escape : String → String} {reference : Char → List Char}
    (escapes : Escapes escape reference)
    {c c' : Additions} (same : c.SameShape c') (title title' : String)
    : markup (c.toPageBy escape title) = markup (c'.toPageBy escape title')
      ∧ values (c.toPageBy escape title) = shown c title
      ∧ values (c'.toPageBy escape title') = shown c' title' :=
  ⟨markup_toPageBy escapes same title title', values_toPageBy escapes c title,
    values_toPageBy escapes c' title'⟩

/-- Additions of plain words. -/
def plainAdditions : Additions where
  newTables := .ofList [("users", [⟨"name", "text", none, []⟩]), ("tags", [])]
  newFields := .ofList [("posts", [⟨"author", "users", some "who wrote it", []⟩,
    ⟨"title", "text", none, []⟩])]

/-- Additions of the same shape that try to bring in markup of their own. -/
def hostileAdditions : Additions where
  newTables := .ofList [
    ("</h2><script>alert('x')</script>", [⟨"\"", "a<b>", some "&lt;b&gt;", []⟩]), ("<!--", [])]
  newFields := .ofList [("\" onclick='go()", [⟨"</td></tr>", "-->", none, []⟩,
    ⟨"&amp;#39;", "'", some "", []⟩])]
  descriptions := .ofList [("<!--", "</table>")]

/-- What the hostile additions say is shown as it is. -/
theorem markup_follows_shape_hostile
    : Escapes escaped escapeChar ∧ plainAdditions.SameShape hostileAdditions
      ∧ markup (plainAdditions.toPage "Schema changes")
        = markup (hostileAdditions.toPage "</title><body class=\"x\">")
      ∧ values (hostileAdditions.toPage "</title><body class=\"x\">")
        = [("title", "</title><body class=\"x\">"), ("h1", "</title><body class=\"x\">")]
          ++ inCells ["</h2><script>alert('x')</script>", "new_table", "1", "",
            "<!--", "new_table", "0", "</table>", "\" onclick='go()", "new_fields", "2", ""]
          ++ [("h2", "</h2><script>alert('x')</script>")] ++ inCells ["\"", "a<b>", "&lt;b&gt;"]
          ++ [("h2", "<!--"), ("h2", "\" onclick='go()")]
          ++ inCells ["</td></tr>", "-->", "", "&amp;#39;", "'", ""] :=
  have same : plainAdditions.SameShape hostileAdditions := fun s => by
    cases s <;> decide +kernel
  have follows :=
    markup_follows_shape escapes_escaped same "Schema changes" "</title><body class=\"x\">"
  ⟨escapes_escaped, same, follows.1, follows.2.2.trans (by decide +kernel)⟩

end Page
end SchemaMarkup
