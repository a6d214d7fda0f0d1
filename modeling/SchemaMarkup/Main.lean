import SchemaMarkup.CommandLine.Run

/-! The program: it reads the files that a command names, carries the command out, and writes
the output and the messages.
-/

namespace SchemaMarkup.CommandLine

/-- How the program is to be called. -/
def usage : String :=
  "usage: parse FILE [--fmt json|dbml]\n"
    ++ "       diff BASE PROPOSED [--fmt table|json|html]\n"
    ++ "       merge BASE PROPOSED [--rename OLD=NEW]...\n"
    ++ "       dedup FILE\n"
    ++ "       normalize FILE\n"
    ++ "       ddl FILE [--dialect sqlite|postgresql|mysql]\n"
    ++ "       reflect FILE"

/-- What the file of a name holds, if there is one that can be read. -/
def readContent (name : String) : IO (Option Content) := do
  try
    let bytes ← IO.FS.readBinFile name
    match String.fromUTF8? bytes with
    | some text => return some (.text text)
    | none => return some .binary
  catch _ => return none

/-- The files of several names. -/
def readFiles (names : List String) : IO Files := do
  let contents ← names.mapM fun name => do
    return (name, ← readContent name)
  return fun name => (contents.lookup name).join

/-- Carry out the command that the words stand for. -/
def runWords (words : List String) : IO UInt32 := do
  let some command := Command.ofWords? words
    | do
      IO.eprintln usage
      return 1
  match run (← readFiles command.files) command with
  | .ok outcome =>
    IO.print outcome.output
    IO.eprint outcome.messageText
    return outcome.exitCode.toUInt32
  | .error e =>
    IO.eprintln ("Error: " ++ e.message)
    return 1

end SchemaMarkup.CommandLine

/-- The entry of the program. -/
def main (words : List String) : IO UInt32 :=
  SchemaMarkup.CommandLine.runWords words
