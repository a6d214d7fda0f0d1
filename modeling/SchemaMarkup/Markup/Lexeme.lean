import SchemaMarkup.Markup.Literal

/-! The smallest pieces of markup. A text is cut into plain characters, strings, comments,
braces and line feeds, so that braces and slashes inside a string belong to the string.
Nothing is lost: the pieces in order are the text.
-/

namespace SchemaMarkup.Markup

/-- A piece of text with the role it plays. -/
inductive Lexeme where
  /-- A character outside strings and comments. -/
  | plain (c : Char)
  /-- A string of one line, with its quotes; it may lack the closing one. -/
  | quoted (cs : List Char)
  /-- A string between triple quotes, with them; it may lack the closing ones. -/
  | block (cs : List Char)
  /-- Two slashes and what follows them on the line. -/
  | comment (cs : List Char)
  | opening
  | closing
  | newline
deriving DecidableEq, Repr

namespace Lexeme

/-- The text of a piece. -/
def chars : Lexeme → List Char
  | plain c => [c]
  | quoted cs => cs
  | block cs => cs
  | comment cs => cs
  | opening => ['\x7b']
  | closing => ['\x7d']
  | newline => ['\n']

-----------------------------------------------------------------------------------------
-- Where strings end
-----------------------------------------------------------------------------------------

/-- The rest of a string of one line, up to its closing quote or the end of the line, and
what follows it. A backslash keeps the next character in the string, whatever it is.
-/
def spanQuoted (quote : Char) : List Char → List Char × List Char
  | [] => ([], [])
  | '\n' :: cs => ([], '\n' :: cs)
  | '\\' :: c :: cs =>
    let (s, rest) := spanQuoted quote cs
    ('\\' :: c :: s, rest)
  | c :: cs =>
    if c = quote then ([c], cs)
    else
      let (s, rest) := spanQuoted quote cs
      (c :: s, rest)

/-- The rest of a string between triple quotes, up to and with the closing ones, and what
follows it.
-/
def spanBlock : List Char → List Char × List Char
  | '\'' :: '\'' :: '\'' :: cs => (tripleQuote, cs)
  | [] => ([], [])
  | c :: cs =>
    let (s, rest) := spanBlock cs
    (c :: s, rest)

/-- The two parts of a string of one line are the text, by induction. -/
theorem spanQuoted_append (quote : Char) (cs : List Char)
    : (spanQuoted quote cs).1 ++ (spanQuoted quote cs).2 = cs := by
  fun_induction spanQuoted quote cs <;> simp_all

/-- The two parts of a string between triple quotes are the text, by induction. -/
theorem spanBlock_append (cs : List Char)
    : (spanBlock cs).1 ++ (spanBlock cs).2 = cs := by
  fun_induction spanBlock cs <;> simp_all [tripleQuote]

-----------------------------------------------------------------------------------------
-- Cutting off one piece leaves a shorter text
-----------------------------------------------------------------------------------------

/-- The first piece of a nonempty text and what follows it. -/
def first (c : Char) (cs : List Char) : Lexeme × List Char :=
  match c, cs with
  | '\'', '\'' :: '\'' :: cs =>
    let (s, rest) := spanBlock cs
    (block (tripleQuote ++ s), rest)
  | '/', '/' :: cs =>
    (comment ('/' :: '/' :: cs.takeWhile (· ≠ '\n')), cs.dropWhile (· ≠ '\n'))
  | '\x7b', cs => (opening, cs)
  | '\x7d', cs => (closing, cs)
  | '\n', cs => (newline, cs)
  | c, cs =>
    if Literal.isQuote c then
      let (s, rest) := spanQuoted c cs
      (quoted (c :: s), rest)
    else (plain c, cs)

/-- The first piece and the rest are the text, case by case. -/
theorem first_append (c : Char) (cs : List Char)
    : (first c cs).1.chars ++ (first c cs).2 = c :: cs := by
  fun_cases first c cs with
  | case1 cs s rest h => simpa [chars, tripleQuote, h] using spanBlock_append cs
  | case2 cs => simp [chars]
  | case3 => rfl
  | case4 => rfl
  | case5 => rfl
  | case6 c cs _ _ _ _ _ _ s rest h => simpa [chars, h] using spanQuoted_append c cs
  | case7 => rfl

/-- A piece holds at least one character. -/
theorem chars_first_ne_nil (c : Char) (cs : List Char)
    : (first c cs).1.chars ≠ [] := by
  fun_cases first c cs <;> simp [chars, tripleQuote]

/-- The first piece leaves less than the text. -/
theorem length_first_lt (c : Char) (cs : List Char)
    : (first c cs).2.length < (c :: cs).length := by
  have h := congrArg List.length (first_append c cs)
  rw [List.length_append] at h
  have hp := List.length_pos_iff.mpr (chars_first_ne_nil c cs)
  omega

/-- The pieces of a text. -/
def ofText : List Char → List Lexeme
  | [] => []
  | c :: cs => (first c cs).1 :: ofText (first c cs).2
termination_by cs => cs.length
decreasing_by exact length_first_lt c cs

/-- The pieces in order are the text, by the length of what is left. -/
theorem flatMap_chars_ofText (cs : List Char)
    : (ofText cs).flatMap chars = cs := by
  fun_induction ofText cs with
  | case1 => rfl
  | case2 c cs ih => rw [List.flatMap_cons, ih, first_append]

end Lexeme
end SchemaMarkup.Markup
