import SchemaMarkup.Terminal.Width
import SchemaMarkup.Text.Words

/-! Breaking text into lines of a width. Lines are broken between words only, and a line that
still does not fit is cut.
-/

namespace SchemaMarkup.Terminal

open Text

/-- The parts of a line between its tabs, joined by blanks that lead to the next multiple of
eight cells.
-/
def joinTabbed (position : Nat) : List (List Char) → List Char
  | [] => []
  | [part] => part
  | part :: parts =>
    let position := position + width (part ++ [' '])
    let blanks := (8 - position % 8) % 8
    part ++ ' ' :: List.replicate blanks ' ' ++ joinTabbed (position + blanks) parts

/-- A line with its tabs replaced by blanks. -/
def withoutTabs (line : List Char) : List Char :=
  joinTabbed 0 (line.splitOn '\t')

/-- A text with the tabs of every line replaced by blanks. -/
def withoutTabsInLines (text : List Char) : List Char :=
  ['\n'].intercalate ((text.splitOn '\n').map withoutTabs)

/-- The words of a line with the white space after each; the first one has also that before
it. A line of white space alone has no words. The word so far is held in reverse, and `ended`
tells whether white space follows its letters already.
-/
def spacedWordsAfter (reversed : List Char) (ended : Bool) : List Char → List (List Char)
  | [] => if reversed.all isBlank then [] else [reversed.reverse]
  | c :: cs =>
    if isBlank c then spacedWordsAfter (c :: reversed) (!reversed.all isBlank) cs
    else if ended then reversed.reverse :: spacedWordsAfter [c] false cs
    else spacedWordsAfter (c :: reversed) false cs

/-- The lines into which words go, after a begun line, which is held in reverse and of which some
cells are filled.
-/
def linesOfWords (target : Nat) (line : List Char) (cells : Nat)
    : List (List Char) → List (List Char)
  | [] => [line.reverse]
  | word :: words =>
    if cells + width (trimRight word) ≤ target then
      linesOfWords target (word.reverse ++ line) (cells + width word) words
    else if line.isEmpty then linesOfWords target word.reverse (width word) words
    else line.reverse :: linesOfWords target word.reverse (width word) words

/-- A line without the white space at its end that does not fit. -/
def withoutOverhang (target : Nat) (line : List Char) : List Char :=
  let blanks := (line.reverse.takeWhile isBlank).length
  line.take (line.length - min blanks (line.length - target))

/-- The lines of a width into which a line is broken. -/
def wrapLine (target : Nat) (line : List Char) : List (List Char) :=
  let line := withoutTabs line
  let lines :=
    match spacedWordsAfter [] false line with
    | [] => [line]
    | words => linesOfWords target [] 0 words
  lines.map fun line => fitted target (withoutOverhang target line)

/-- The lines of a width into which a text is broken. -/
def wrap (target : Nat) (text : List Char) : List (List Char) :=
  (text.splitOn '\n').flatMap (wrapLine target)

end SchemaMarkup.Terminal
