import SchemaMarkup.Terminal.Emoji
import SchemaMarkup.Terminal.Style

/-! Text with style tags, as it is shown without styles. A tag stands in square brackets and
begins with a small letter, a number sign, a slash or an at sign; a backslash before it makes
it plain text. A tag that begins with a slash closes an open one.
-/

namespace SchemaMarkup.Terminal

open Text

-----------------------------------------------------------------------------------------
-- Text is cut into tags and what stands between them
-----------------------------------------------------------------------------------------

/-- A part of a text with style tags. -/
inductive Piece where
  | plain (text : List Char)
  /-- A tag, with its position and what stands between its brackets. -/
  | tag (position : Nat) (content : List Char)
deriving DecidableEq, Repr, Inhabited

/-- Whether a character may begin a style tag. -/
def startsTag (c : Char) : Bool :=
  c.isLower || c = '#' || c = '/' || c = '@'

/-- Whether a character may stand inside a style tag. -/
def isTagChar (c : Char) : Bool :=
  c ≠ '[' && c ≠ ']'

/-- A tag where a text begins, with what follows it. -/
structure TagStart where
  /-- The number of backslashes before the tag. -/
  escapes : Nat
  content : List Char
  rest : List Char
deriving DecidableEq, Repr, Inhabited

/-- The tag with which a text begins. -/
def tagStart? (cs : List Char) : Option TagStart :=
  match cs.dropWhile (· = '\\') with
  | '[' :: cs' =>
    match cs'.dropWhile isTagChar with
    | ']' :: rest =>
      if cs'.head?.any startsTag then
        some ⟨(cs.takeWhile (· = '\\')).length, cs'.takeWhile isTagChar, rest⟩
      else none
    | _ => none
  | _ => none

/-- A tag takes up some of the text, at least its brackets. -/
theorem length_rest_lt_of_tagStart? {cs : List Char} {t : TagStart}
    (h : tagStart? cs = some t)
    : t.rest.length < cs.length := by
  unfold tagStart? at h
  split at h
  next cs' hcs =>
    split at h
    next rest hrest =>
      split at h
      · simp only [Option.some.injEq] at h
        have hrest := length_lt_of_dropWhile_eq_cons hrest
        have hcs := length_lt_of_dropWhile_eq_cons hcs
        rw [← h]
        exact Nat.lt_trans hrest hcs
      · simp at h
    · simp at h
  · simp at h

/-- The plain text of characters that are held in reverse, if there are any. -/
def plainPiece (reversed : List Char) : List Piece :=
  if reversed.isEmpty then [] else [.plain reversed.reverse]

/-- The pieces of a tag that is read at a position. Of the backslashes before it every second
one is shown, and an odd number of them makes it plain text.
-/
def TagStart.pieces (position : Nat) (t : TagStart) : List Piece :=
  plainPiece (List.replicate (t.escapes / 2) '\\')
    ++ if t.escapes % 2 = 1 then [.plain ('[' :: t.content ++ [']'])]
      else [.tag (position + t.escapes) t.content]

/-- The pieces of a text from a position on, after plain text that is held in reverse. -/
def piecesAfter (position : Nat) (reversed : List Char) : List Char → List Piece
  | [] => plainPiece reversed
  | c :: cs =>
    match h : tagStart? (c :: cs) with
    | some t =>
      let next := position + t.escapes + t.content.length + 2
      plainPiece reversed ++ t.pieces position ++ piecesAfter next [] t.rest
    | none => piecesAfter (position + 1) (c :: reversed) cs
termination_by cs => cs.length
decreasing_by
  · exact length_rest_lt_of_tagStart? h
  · exact Nat.lt_succ_self _

-----------------------------------------------------------------------------------------
-- Tags are matched and what stands between them is shown
-----------------------------------------------------------------------------------------

/-- Whether a character moves the cursor instead of being shown. -/
def isControl (c : Char) : Bool :=
  c = '\x07' || c = '\x08' || c = '\x0b' || c = '\x0c' || c = '\x0d'

/-- Brackets without the backslash that keeps them from beginning a tag. -/
def withoutEscapes : List Char → List Char
  | [] => []
  | '\\' :: '[' :: cs => '[' :: withoutEscapes cs
  | c :: cs => c :: withoutEscapes cs

/-- Plain text as it is shown. -/
def shownPlain (cs : List Char) : List Char :=
  (withEmoji (withoutEscapes cs)).filter (!isControl ·)

/-- The styles that are open, the innermost first, after one more tag. -/
def afterTag (openStyles : List String) (position : Nat) (content : List Char)
    : Except Error (List String) :=
  match content.takeWhile (· ≠ '=') with
  | '/' :: name =>
    match trim name, openStyles with
    | [], [] => .error (.nothingToClose position)
    | [], _ :: outer => .ok outer
    | name, openStyles => do
      let style ← normalStyle (String.ofList name)
      if style ∈ openStyles then return openStyles.erase style
      else throw (.unmatchedTag (String.ofList content) position)
  | name => return (← normalStyle (String.ofList name)) :: openStyles

/-- The text that pieces show, while styles are open. -/
def shownPieces (openStyles : List String) : List Piece → Except Error (List Char)
  | [] => .ok []
  | .plain text :: pieces => return shownPlain text ++ (← shownPieces openStyles pieces)
  | .tag position content :: pieces => do
    shownPieces (← afterTag openStyles position content) pieces

/-- A text as a terminal shows it, without style tags and cursor movements. -/
def shown (s : String) : Except Error (List Char) :=
  shownPieces [] (piecesAfter 0 [] s.toList)

end SchemaMarkup.Terminal
