import SchemaMarkup.Text.Blank
import SchemaMarkup.Text.Word
import SchemaMarkup.Text.Case

/-! The small steps in which a line of markup is recognized. Each step takes the rest of the
line and answers what remains after the piece it stands for, or nothing if it is not there.
-/

namespace SchemaMarkup.Markup.Scan

open Text

/-- What remains after one given character. -/
def char (c : Char) : List Char → Option (List Char)
  | d :: cs => if d = c then some cs else none
  | [] => none

/-- What remains after a keyword, written in any letter case. -/
def keyword : List Char → List Char → Option (List Char)
  | [], cs => some cs
  | k :: ks, c :: cs => if foldCase c = foldCase k then keyword ks cs else none
  | _ :: _, [] => none

/-- What remains after any white space. -/
def blanks (cs : List Char) : List Char :=
  trimLeft cs

/-- What remains after white space of which there is some. -/
def someBlanks : List Char → Option (List Char)
  | c :: cs => if isBlank c then some (trimLeft cs) else none
  | [] => none

/-- The longest nonempty run of characters of one kind, and what remains. -/
def run (p : Char → Bool) (cs : List Char) : Option (List Char × List Char) :=
  match cs.takeWhile p with
  | [] => none
  | c :: w => some (c :: w, cs.dropWhile p)

/-- A name as it is written, and what remains: a nonempty text between double quotes, or a
run of bare characters.
-/
def nameOf (bare : Char → Bool) : List Char → Option (List Char × List Char)
  | '"' :: cs =>
    match cs.takeWhile (· ≠ '"'), cs.dropWhile (· ≠ '"') with
    | c :: w, '"' :: rest => some ('"' :: c :: w ++ ['"'], rest)
    | _, _ => none
  | cs => run bare cs

/-- A name whose bare form is a word. -/
def name (cs : List Char) : Option (List Char × List Char) :=
  nameOf isWord cs

/-- A name whose bare form is made of words and dots. -/
def dottedName (cs : List Char) : Option (List Char × List Char) :=
  nameOf (fun c => isWord c || c = '.') cs

/-- Two names joined by a dot: a field of a table. -/
def fieldPath (cs : List Char) : Option ((List Char × List Char) × List Char) := do
  let (table, cs) ← name cs
  let cs ← char '.' cs
  let (field, cs) ← name cs
  return ((table, field), cs)

/-- What remains after a bracketed list of settings, if one follows. -/
def settings (cs : List Char) : List Char :=
  let bracketed := do
    let rest ← char '[' (blanks cs)
    char ']' (rest.dropWhile (· ≠ ']'))
  bracketed.getD cs

/-- Whether nothing remains but perhaps one line feed. -/
def atEnd (cs : List Char) : Bool :=
  cs = [] || cs = ['\n']

end SchemaMarkup.Markup.Scan
