import SchemaMarkup.Additions.Json
import SchemaMarkup.Additions.Page
import SchemaMarkup.Additions.Summary
import SchemaMarkup.CommandLine.Command
import SchemaMarkup.CommandLine.Message
import SchemaMarkup.Schema.Json
import SchemaMarkup.Session.Edit
import SchemaMarkup.Sql.Reflection
import SchemaMarkup.Terminal.Grid

/-! Carrying out a command on a collection of files. -/

namespace SchemaMarkup.CommandLine

/-- What a file holds. -/
inductive Content where
  | text (text : String)
  | database (tables : List Sql.StoredTable)
  /-- Bytes that are neither text nor a database. -/
  | binary
deriving DecidableEq, Repr

/-- Files by their names. -/
abbrev Files := String → Option Content

/-- What a command leaves behind: an exit code, its output, and messages to the user as they
are shown.
-/
structure Outcome where
  exitCode : UInt8 := 0
  output : String := ""
  messages : List String := []
deriving DecidableEq, Repr, Inhabited

/-- Why a command comes to no result. -/
inductive Failure where
  /-- The user is told what is wrong. -/
  | reported (message : String)
  /-- The library refuses what the command asks of it. -/
  | refused (error : Error)
deriving DecidableEq, Repr

/-- The messages to the user, each on a line of its own. -/
def Outcome.messageText (o : Outcome) : String :=
  String.join (o.messages.map (· ++ "\n"))

/-- A result of the library, whose refusal is not reported to the user. -/
def expect {α : Type} : Except Error α → Except Failure α
  | .ok a => .ok a
  | .error e => .error (.refused e)

-----------------------------------------------------------------------------------------
-- Reading what a command needs
-----------------------------------------------------------------------------------------

/-- The content of a file that has to exist. -/
def contentOf (files : Files) (name : String) : Except Failure Content :=
  match files name with
  | some content => .ok content
  | none => .error (.reported ("File does not exist: " ++ name))

/-- The text of a file that has to exist, with line feeds alone as line ends. -/
def textOf (files : Files) (name : String) : Except Failure String := do
  match ← contentOf files name with
  | .text text => return String.ofList (Text.unixLines text.toList)
  | _ => throw (.reported (name ++ ": not a text file"))

/-- The schema in a file; its text goes through a preparation first. -/
def schemaOf (files : Files) (name : String) (prepare : String → String)
    : Except Failure Schema := do
  let text ← textOf files name
  match Schema.ofText (prepare text) with
  | .ok s => return s
  | .error e => throw (.reported (name ++ ": " ++ e.message))

/-- The old and new table name of a rename `old=new`. -/
def renameOf (rename : String) : Except Failure (String × String) :=
  let old := Text.trimmed (String.ofList (rename.toList.takeWhile (· ≠ '=')))
  match rename.toList.dropWhile (· ≠ '=') with
  | [] => .error (.reported ("Invalid rename '" ++ rename ++ "', expected OLD=NEW"))
  | _ :: rest =>
    let new := Text.trimmed (String.ofList rest)
    if old = "" || new = "" then
      .error (.reported ("Invalid rename '" ++ rename ++ "', expected OLD=NEW"))
    else .ok (old, new)

/-- A session after one of the renames that the user asks for. -/
def renamed (s : Session) (names : String × String) : Except Failure Session :=
  match s.rename names.1 names.2 none with
  | .ok s => .ok s
  | .error e => .error (.reported e.message)

-----------------------------------------------------------------------------------------
-- Showing results
-----------------------------------------------------------------------------------------

/-- Changes as a drawn table. -/
def changesTable (c : Additions) : Except Error String :=
  match c.summary with
  | [] => .ok "No differences found between schemas.\n"
  | rows =>
    Terminal.Grid.draw {
      title := "Schema Changes"
      columns := [
        ⟨"Table", rows.map (·.name)⟩,
        ⟨"Change", rows.map (·.kind.entryName)⟩,
        ⟨"Fields", rows.map fun r => toString r.fieldCount⟩,
        ⟨"Description", rows.map (·.description)⟩] }

/-- Changes in the form asked for. -/
def changesText (c : Additions) : ChangesFormat → Except Error String
  | .table => changesTable c
  | .json => .ok c.toJson.render
  | .html => .ok (c.toPage "Schema changes")

/-- A schema in the form asked for. -/
def schemaText (s : Schema) : SchemaFormat → String
  | .json => s.toJson.render
  | .markup => s.toText

/-- The endings of database files. -/
def databaseExtensions : List String :=
  [".db", ".sqlite", ".sqlite3"]

/-- The tables in a file; one of no more than a byte is an empty database. -/
def Content.tables : Content → Except Error (List Sql.StoredTable)
  | database tables => .ok tables
  | text t => if t.utf8ByteSize ≤ 1 then .ok [] else .error .notADatabase
  | binary => .error .notADatabase

/-- The tables of the database at an address. -/
def Address.tables (files : Files) (a : Address) : Except Error (List Sql.StoredTable) :=
  match a.file?.bind files with
  | some content => content.tables
  | none => if a.mustExist then .error .cannotOpenDatabase else .ok []

-----------------------------------------------------------------------------------------
-- Commands are carried out
-----------------------------------------------------------------------------------------

/-- A message for information. -/
def inform (text : String) : Except Failure String :=
  expect (Topic.information.message text)

/-- Carry out a command, or say why it cannot be done. -/
def attempt (files : Files) : Command → Except Failure Outcome
  | .parse file format => do
    let s ← schemaOf files file id
    let note ← inform ("Parsed " ++ toString s.tables.length ++ " tables from " ++ file)
    return { output := schemaText s format, messages := [note] }
  | .diff base proposal format => do
    let old ← schemaOf files base id
    let new ← schemaOf files proposal Markup.withoutFence
    let oldNote ← inform ("Base schema: " ++ base)
    let newNote ← inform ("Proposed schema: " ++ proposal)
    let output ← expect (changesText (.between old new) format)
    return { output, messages := [oldNote, newNote] }
  | .merge base proposal renames => do
    let old ← schemaOf files base id
    let new ← schemaOf files proposal Markup.withoutFence
    let names ← renames.mapM renameOf
    let session ← names.foldlM renamed (Session.start old new)
    let result ← expect session.merged
    let note ←
      match result.warnings with
      | [] => expect (Topic.success.message "Merge completed successfully")
      | ws => inform ("Merge completed with " ++ toString ws.length ++ " warnings")
    return { output := result.text, messages := [note] }
  | .dedup file => do
    let text ← textOf files file
    return { output := Markup.withoutRepeats .standard text }
  | .normalize file => do
    let s ← schemaOf files file id
    let s ← expect (s.withInferredTypes .standard)
    return { output := (s.withImpliedRefs .standard).toText }
  | .ddl file dialect => do
    let s ← schemaOf files file id
    let note ← inform ("SQL dialect: " ++ dialect)
    let text ← expect (s.toSql dialect)
    return { output := text, messages := [note] }
  | .reflect file => do
    let _ ← contentOf files file
    if extension file ∉ databaseExtensions then
      throw (.reported ("Database file has invalid extension: "
        ++ ", ".intercalate databaseExtensions))
    let note ← inform ("Source database: " ++ file)
    let s ← expect (Sql.describe (← expect ((Address.ofPath file).tables files)))
    return { output := s.toText, messages := [note] }

/-- What a command leaves behind; a fault that is reported to the user ends it with code 1. -/
def run (files : Files) (c : Command) : Except Error Outcome := do
  match attempt files c with
  | .ok outcome => return outcome
  | .error (.reported text) => return { exitCode := 1, messages := [← Topic.fault.message text] }
  | .error (.refused e) => throw e

end SchemaMarkup.CommandLine
