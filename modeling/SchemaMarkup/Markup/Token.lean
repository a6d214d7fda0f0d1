import SchemaMarkup.Markup.Lexeme
import SchemaMarkup.Text.Blank

/-! Tokens: the lines of text between braces and line ends, each with its comment, and the
braces themselves.
-/

namespace SchemaMarkup.Markup

/-- A logical line or a brace, with the number of the line it begins on. -/
inductive Token where
  /-- A trimmed nonempty line, with the comment that ends it. -/
  | text (text : String) (comment : Option String) (line : Nat)
  | opening (line : Nat)
  | closing (line : Nat)
deriving DecidableEq, Repr

namespace Token

/-- The text a token stands for. -/
def content : Token → String
  | text s _ _ => s
  | opening _ => "\x7b"
  | closing _ => "\x7d"

/-- The number of the line a token begins on, counted from one. -/
def line : Token → Nat
  | text _ _ n => n
  | opening n => n
  | closing n => n

/-- A line of text that has not ended yet: what was read of it, in reverse, its comment and the
number of the line it began on.
-/
structure Pending where
  reversed : List Char := []
  comment : Option String := none
  start : Nat

/-- The token of a finished line, if anything but white space was on it. -/
def Pending.finish (p : Pending) : List Token :=
  match Text.trim p.reversed.reverse with
  | [] => []
  | c :: cs => [text (String.ofList (c :: cs)) p.comment p.start]

/-- The text of a comment without its slashes, if there is any. -/
def commentText (cs : List Char) : Option String :=
  match Text.trim (cs.drop 2) with
  | [] => none
  | c :: cs => some (String.ofList (c :: cs))

/-- The number of line feeds that a piece moves the count of lines by. -/
def linesIn : Lexeme → Nat
  | .block cs => cs.count '\n'
  | _ => 0

/-- The tokens of the pieces that follow a pending line, from a given line on. -/
def ofLexemes (p : Pending) (line : Nat) : List Lexeme → List Token
  | [] => p.finish
  | .newline :: ls => p.finish ++ ofLexemes { start := line + 1 } (line + 1) ls
  | .opening :: ls => p.finish ++ opening line :: ofLexemes { start := line } line ls
  | .closing :: ls => p.finish ++ closing line :: ofLexemes { start := line } line ls
  | .comment cs :: ls => ofLexemes { p with comment := commentText cs } line ls
  | l :: ls => ofLexemes { p with reversed := l.chars.reverse ++ p.reversed } (line + linesIn l) ls

/-- The tokens of a text. -/
def scan (s : String) : List Token :=
  ofLexemes { start := 1 } 1 (Lexeme.ofText s.toList)

end Token
end SchemaMarkup.Markup
