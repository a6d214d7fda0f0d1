import SchemaMarkup.Text.Case
import SchemaMarkup.Text.EmojiNames
import SchemaMarkup.Text.Search
import SchemaMarkup.Text.Words

/-! Emoji in a text, written as a name between colons. The name may end in `-emoji` or `-text`,
which asks for one of the two ways in which an emoji is shown.
-/

namespace SchemaMarkup.Terminal

open Text

/-- Elements taken two by two. -/
def pairUp : List String → List (String × String)
  | name :: emoji :: rest => (name, emoji) :: pairUp rest
  | _ => []

/-- All names with their emoji. -/
def namedEmoji : List (String × String) :=
  pairUp (words emojiNames)

/-- A name without the ending that asks for a way of showing, and the variation selector that
stands for it.
-/
def presentationOf (code : String) : String × String :=
  if endsWith code "-emoji" then (dropLast code 6, "\ufe0f")
  else if endsWith code "-text" then (dropLast code 5, "\ufe0e")
  else (code, "")

/-- The emoji that the text between two colons stands for. -/
def emojiOf? (code : String) : Option String :=
  let (name, selector) := presentationOf code
  (namedEmoji.lookup (lower name)).map (· ++ selector)

/-- Whether a character may stand between the colons. -/
def isCodeChar (c : Char) : Bool :=
  c ≠ ':' && !isBlank c

/-- What follows the first element that fails a test is shorter than the list. -/
theorem length_lt_of_dropWhile_eq_cons {α : Type} {p : α → Bool} {as rest : List α} {a : α}
    (h : as.dropWhile p = a :: rest)
    : rest.length < as.length := by
  have hle := (List.dropWhile_suffix p (l := as)).length_le
  rwa [h] at hle

/-- A text with codes between colons replaced where the code stands for something. Other text
between two colons stays as it is, together with its colons.
-/
def replaceCodes (meaning? : String → Option String) : List Char → List Char
  | [] => []
  | c :: cs =>
    if c = ':' then
      match _ : cs.dropWhile isCodeChar with
      | ':' :: rest =>
        let code := cs.takeWhile isCodeChar
        match meaning? (String.ofList code) with
        | some meaning => meaning.toList ++ replaceCodes meaning? rest
        | none => ':' :: code ++ ':' :: replaceCodes meaning? rest
      | _ => ':' :: replaceCodes meaning? cs
    else c :: replaceCodes meaning? cs
termination_by cs => cs.length
decreasing_by
  · exact Nat.lt_succ_of_lt (length_lt_of_dropWhile_eq_cons ‹_›)
  · exact Nat.lt_succ_of_lt (length_lt_of_dropWhile_eq_cons ‹_›)
  · exact Nat.lt_succ_self _
  · exact Nat.lt_succ_self _

/-- A text with the names of emoji between colons replaced by the emoji. -/
def withEmoji (cs : List Char) : List Char :=
  replaceCodes emojiOf? cs

end SchemaMarkup.Terminal
