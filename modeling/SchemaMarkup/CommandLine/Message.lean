import SchemaMarkup.Terminal.Styled
import SchemaMarkup.Terminal.Wrap

/-! Messages to the user, each a line that begins with what it is about. Style tags in a message
count, also those in the names that it quotes.
-/

namespace SchemaMarkup.CommandLine

/-- What a message is about. -/
inductive Topic where
  | fault
  | success
  | information
deriving DecidableEq, Repr, Inhabited

/-- How a message about a topic begins. -/
def Topic.label : Topic → String
  | fault => "[bold red]Error:[/]"
  | success => "[bold green]✓[/]"
  | information => "[bold blue]i[/]"

/-- A message as a terminal shows it, without the end of its line. -/
def Topic.message (t : Topic) (text : String) : Except Error String := do
  let shown ← Terminal.shown (t.label ++ " " ++ text)
  return String.ofList (Terminal.withoutTabsInLines shown)

end SchemaMarkup.CommandLine
