import SchemaMarkup.CommandLine.Arguments
import SchemaMarkup.CommandLine.Location

/-! The commands of the program and the arguments from which they are made. -/

namespace SchemaMarkup.CommandLine

/-- The form in which a schema is shown. -/
inductive SchemaFormat where
  | json
  | markup
deriving DecidableEq, Repr, Inhabited

/-- The form in which changes are shown. -/
inductive ChangesFormat where
  | table
  | json
  | html
deriving DecidableEq, Repr, Inhabited

/-- What the program is asked to do, with the names of the files concerned. -/
inductive Command where
  /-- Show the structure of a schema. -/
  | parse (file : String) (format : SchemaFormat)
  /-- Show what a proposal adds to a base schema. -/
  | diff (base proposal : String) (format : ChangesFormat)
  /-- Merge what a proposal adds into a base schema, with tables renamed on the way. -/
  | merge (base proposal : String) (renames : List String)
  /-- Drop repeated declarations from a schema text. -/
  | dedup (file : String)
  /-- Give every field its type and every relationship its reference. -/
  | normalize (file : String)
  /-- Write the statements that create the tables of a schema. -/
  | ddl (file dialect : String)
  /-- Describe a database as a schema. -/
  | reflect (file : String)
deriving DecidableEq, Repr

/-- The names of the files that a command reads. -/
def Command.files : Command → List String
  | parse file _ | dedup file | normalize file | ddl file _ => [file]
  | reflect file => file :: (Address.ofPath file).file?.toList
  | diff base proposal _ | merge base proposal _ => [base, proposal]

/-- The file named by an argument, and the arguments without it. -/
def Arguments.file? (a : Arguments) (name : String) : Option (String × Arguments) :=
  (a.take? name).map fun (path, a) => (shownPath path, a)

/-- The form of a schema that a word stands for. -/
def SchemaFormat.ofName? : String → Option SchemaFormat
  | "json" => some json
  | "dbml" => some markup
  | _ => none

/-- The form of changes that a word stands for. -/
def ChangesFormat.ofName? : String → Option ChangesFormat
  | "table" => some table
  | "json" => some json
  | "html" => some html
  | _ => none

/-- The command that arguments stand for, if they are complete. -/
def Command.ofArguments? (name : String) (a : Arguments) : Option Command :=
  match name with
  | "parse" => do
    let (file, a) ← a.file? "location"
    let format ← SchemaFormat.ofName? (((a.take? "fmt").map Prod.fst).getD "json")
    return .parse file format
  | "diff" => do
    let (base, a) ← a.file? "base"
    let (proposal, a) ← a.file? "proposed"
    let format ← ChangesFormat.ofName? (((a.take? "fmt").map Prod.fst).getD "table")
    return .diff base proposal format
  | "merge" => do
    let (base, a) ← a.file? "base"
    let (proposal, a) ← a.file? "proposed"
    return .merge base proposal (a.values "rename")
  | "dedup" => (a.file? "location").map fun (file, _) => .dedup file
  | "normalize" => (a.file? "location").map fun (file, _) => .normalize file
  | "ddl" => do
    let (file, a) ← a.file? "location"
    return .ddl file (((a.take? "dialect").map Prod.fst).getD "sqlite")
  | "reflect" => (a.file? "sqlite-location").map fun (file, _) => .reflect file
  | _ => none

/-- The command that the words on the command line stand for. The option that asks for more
log records changes nothing else.
-/
def Command.ofWords? (words : List String) : Option Command :=
  let a := Arguments.ofWords words
  match a.places with
  | [] => none
  | name :: places => ofArguments? name { a with places }

end SchemaMarkup.CommandLine
