import SchemaMarkup.Error
import SchemaMarkup.Terminal.ColorNames
import SchemaMarkup.Text.Case
import SchemaMarkup.Text.Search
import SchemaMarkup.Text.Words

/-! Styles of text and the words in which they are described. Descriptions that ask for the
same style have one normal form, by which an opening and a closing tag are matched.
-/

namespace SchemaMarkup.Terminal

open Text

/-- What a style can switch on or off, in the order in which it is described. -/
inductive Attribute where
  | bold
  | dim
  | italic
  | underline
  | blink
  | fastBlink
  | reverse
  | conceal
  | strike
  | doubleUnderline
  | frame
  | encircle
  | overline
deriving DecidableEq, Repr, Inhabited

namespace Attribute

/-- All attributes in order. -/
def all : List Attribute :=
  [bold, dim, italic, underline, blink, fastBlink, reverse, conceal, strike, doubleUnderline,
    frame, encircle, overline]

/-- How an attribute is called. -/
def name : Attribute → String
  | bold => "bold"
  | dim => "dim"
  | italic => "italic"
  | underline => "underline"
  | blink => "blink"
  | fastBlink => "blink2"
  | reverse => "reverse"
  | conceal => "conceal"
  | strike => "strike"
  | doubleUnderline => "underline2"
  | frame => "frame"
  | encircle => "encircle"
  | overline => "overline"

/-- How an attribute is called for short, if it has a short name. -/
def shortName? : Attribute → Option String
  | bold => some "b"
  | dim => some "d"
  | italic => some "i"
  | underline => some "u"
  | reverse => some "r"
  | conceal => some "c"
  | strike => some "s"
  | doubleUnderline => some "uu"
  | overline => some "o"
  | blink | fastBlink | frame | encircle => none

/-- The attribute that a word stands for. -/
def ofWord? (word : String) : Option Attribute :=
  all.find? fun a => a.name = word || a.shortName? = some word

/-- Reading the name of an attribute gives it back, case by case. -/
@[simp]
theorem ofWord?_name (a : Attribute)
    : ofWord? a.name = some a := by
  cases a <;> decide

end Attribute

/-- A style: attributes switched on or off, the last choice first, colors and a link. -/
structure Style where
  attributes : List (Attribute × Bool) := []
  color : Option String := none
  background : Option String := none
  link : Option String := none
deriving DecidableEq, Repr, Inhabited

/-- A style in words: its attributes in order, then its colors and its link. -/
def Style.text (s : Style) : String :=
  let attributes := Attribute.all.filterMap fun a =>
    (s.attributes.lookup a).map fun isOn => if isOn then a.name else "not " ++ a.name
  let background := s.background.toList.map ("on " ++ ·)
  let link := s.link.toList.map ("link " ++ ·)
  match attributes ++ s.color.toList ++ background ++ link with
  | [] => "none"
  | words => " ".intercalate words

/-- What stands between an opening text and a closing bracket at the very end. -/
def between? (opening word : String) : Option String :=
  if opening.toList.isPrefixOf word.toList && endsWith word ")" then
    some (dropLast (String.ofList (word.toList.drop opening.length)) 1)
  else none

/-- Whether a text is a number of at most 255 in one to `digits` digits. -/
def isShade (digits : Nat) (s : String) : Bool :=
  0 < s.length && s.length ≤ digits && s.toList.all Char.isDigit
    && (s.toNat?).any (· ≤ 255)

/-- Whether a small letter or digit is a hexadecimal digit. -/
def isHexDigit (c : Char) : Bool :=
  c.isDigit || ('a' ≤ c && c ≤ 'f')

/-- Whether three shades between commas make a color. An empty shade cannot be read. -/
def areShades (text : String) : Except Error Bool :=
  let parts := splitOn ',' text
  if !(text.toList.all fun c => c.isDigit || c = ',') || text = "" || parts.length ≠ 3 then
    .ok false
  else if "" ∈ parts then .error .emptyShade
  else .ok (parts.all fun part => isShade part.length part)

/-- Whether a word in small letters is a color: a name, a number or three shades. -/
def isColor (word : String) : Except Error Bool :=
  if word = "default" || word ∈ colorNames then .ok true
  else match word.toList, between? "color(" word, between? "rgb(" word with
    | '#' :: cs, _, _ => .ok (cs.length = 6 && cs.all isHexDigit)
    | _, some number, _ => .ok (isShade 3 number)
    | _, _, some shades => areShades shades
    | _, _, _ => .ok false

/-- The style that words add to a style; none if they do not describe one. -/
def Style.add? (s : Style) : List String → Except Error (Option Style)
  | [] => .ok (some s)
  | word :: words =>
    match lower word, words with
    | "on", color :: words => do
      if ← isColor (lower color) then add? { s with background := some (lower color) } words
      else return none
    | "not", word :: words =>
      match Attribute.ofWord? word with
      | some a => add? { s with attributes := (a, false) :: s.attributes } words
      | none => .ok none
    | "link", url :: words => add? { s with link := some url } words
    | "on", [] | "not", [] | "link", [] => .ok none
    | word, words =>
      match Attribute.ofWord? word with
      | some a => add? { s with attributes := (a, true) :: s.attributes } words
      | none => do
        if ← isColor word then add? { s with color := some word } words
        else return none

/-- The normal form of a description. One that describes no style is only put in small
letters.
-/
def normalStyle (description : String) : Except Error String := do
  if trimmed description = "none" || description = "" then return "none"
  match ← Style.add? {} (words description) with
  | some s => return s.text
  | none => return lower (trimmed description)

end SchemaMarkup.Terminal
