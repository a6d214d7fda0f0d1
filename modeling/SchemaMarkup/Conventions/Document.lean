import SchemaMarkup.Conventions.Basic
import SchemaMarkup.Error
import SchemaMarkup.Text.Blank

/-! Configuration texts that state conventions: section headings, repeated headings for the
type families, and one key with a string or a list of strings on a line. A document keeps what
is written under each name, complete or not.
-/

namespace SchemaMarkup.Conventions

open Text

/-- A configured value. -/
inductive Setting where
  | string (s : String)
  | strings (ss : List String)
deriving DecidableEq, Repr, Inhabited

/-- Settings with their keys, in order. -/
abbrev Settings := List (String × Setting)

/-- What a document states under a name. -/
inductive Entry where
  | setting (value : Setting)
  | part (settings : Settings)
  /-- The parts under a repeated heading. -/
  | parts (all : List Settings)
deriving DecidableEq, Repr, Inhabited

/-- What a document states about each kind of convention. -/
structure Document where
  identifiers : Entry
  placeholders : Entry
  groups : Entry
  types : Entry
deriving DecidableEq, Repr, Inhabited

-----------------------------------------------------------------------------------------
-- Lines become settings and headings
-----------------------------------------------------------------------------------------

/-- A heading, which may be one that is repeated. -/
structure SectionHeading where
  name : String
  isRepeated : Bool
deriving DecidableEq, Repr, Inhabited

/-- What a line says. -/
inductive DocumentLine where
  | empty
  | heading (h : SectionHeading)
  | setting (key : String) (value : Setting)
deriving DecidableEq, Repr, Inhabited

/-- The strings between quotes in a text; what stands between them is passed over, and a
number sign there ends the text. The open quote comes first with the string so far, which is
held in reverse.
-/
def quotedStrings : Option (Char × List Char) → List Char → List String
  | _, [] => []
  | none, c :: cs =>
    if c = '#' then []
    else if c = '"' || c = '\'' then quotedStrings (some (c, [])) cs
    else quotedStrings none cs
  | some (q, s), c :: cs =>
    if c = q then String.ofList s.reverse :: quotedStrings none cs
    else quotedStrings (some (q, c :: s)) cs

/-- A name without blanks and quotes around it. -/
def bareName (cs : List Char) : String :=
  String.ofList ((trim cs).filter fun c => c ≠ '"' && c ≠ '\'')

/-- What a line says. -/
def DocumentLine.ofText (line : List Char) : DocumentLine :=
  match trim line with
  | [] | '#' :: _ => .empty
  | '[' :: '[' :: cs => .heading ⟨bareName (cs.takeWhile (· ≠ ']')), true⟩
  | '[' :: cs => .heading ⟨bareName (cs.takeWhile (· ≠ ']')), false⟩
  | cs =>
    let value := trim ((cs.dropWhile (· ≠ '=')).drop 1)
    let strings := quotedStrings none value
    .setting (bareName (cs.takeWhile (· ≠ '=')))
      (if value.head? = some '[' then .strings strings else .string (strings.headD ""))

-----------------------------------------------------------------------------------------
-- Lines become sections
-----------------------------------------------------------------------------------------

/-- A section under its heading; the settings before the first heading have none. -/
structure Section where
  heading? : Option SectionHeading
  settings : Settings
deriving DecidableEq, Repr, Inhabited

/-- The sections of the lines that follow a section opened before. -/
def sectionsAfter (current : Section) : List DocumentLine → List Section
  | [] => [current]
  | .empty :: lines => sectionsAfter current lines
  | .heading h :: lines => current :: sectionsAfter ⟨some h, []⟩ lines
  | .setting key value :: lines =>
    sectionsAfter { current with settings := current.settings ++ [(key, value)] } lines

/-- What sections state under a name. -/
def entry? (sections : List Section) (name : String) : Option Entry :=
  let settings := (sections.filter (·.heading?.isNone)).flatMap Section.settings
  let isNamed (s : Section) : Bool := s.heading?.any (·.name = name)
  match settings.lookup name, sections.find? isNamed with
  | some value, _ => some (.setting value)
  | none, none => none
  | none, some s =>
    if s.heading?.any (·.isRepeated) then
      some (.parts ((sections.filter isNamed).map Section.settings))
    else some (.part s.settings)

/-- What sections state under a name that a document has to have. -/
def needEntry (sections : List Section) (name : String) : Except Error Entry :=
  match entry? sections name with
  | some e => .ok e
  | none => .error (.missingSection name)

/-- The document that a text holds. -/
def Document.ofText (text : String) : Except Error Document := do
  let lines := (text.toList.splitOn '\n').map DocumentLine.ofText
  let sections := sectionsAfter ⟨none, []⟩ lines
  return {
    identifiers := ← needEntry sections "identifiers"
    placeholders := ← needEntry sections "placeholders"
    groups := ← needEntry sections "groups"
    types := ← needEntry sections "types" }

end SchemaMarkup.Conventions
