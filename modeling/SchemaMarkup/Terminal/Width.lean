import SchemaMarkup.Text.Ranges
import SchemaMarkup.Text.WidthRanges

/-! How many cells of a terminal a text fills, and cutting a text to a number of cells. Several
characters may share the cells of one: a joiner draws the character after it into the one
before, and a variation selector can widen the character before it.
-/

namespace SchemaMarkup.Terminal

open Text

/-- The cells that a character fills on its own. -/
def charWidth (c : Char) : Nat :=
  let n := c.toNat
  if n < 0x20 || (0x7F ≤ n && n < 0xA0) then 0
  else if n < 0xA0 then 1
  else if inRanges zeroWidthRanges n then 0
  else if inRanges wideRanges n then 2
  else 1

/-- The cells that a variation selector adds to the last character that fills some. -/
def widening (last : Option Char) : Nat :=
  if last.any fun c => inRanges emojiPresentationRanges c.toNat then 1 else 0

/-- The cells of a text after a character that fills some and has not been widened yet. -/
def widthAfter (last : Option Char) : List Char → Nat
  | [] => 0
  | '\u200d' :: [] => 0
  | '\u200d' :: _ :: cs => widthAfter last cs
  | '\ufe0f' :: cs => widening last + widthAfter none cs
  | c :: cs =>
    if charWidth c = 0 then widthAfter last cs
    else charWidth c + widthAfter (some c) cs

/-- The cells that a text fills. -/
def width (cs : List Char) : Nat :=
  widthAfter none cs

/-- Characters that are drawn in the same cells. -/
structure Cluster where
  chars : List Char
  cells : Nat
deriving DecidableEq, Repr, Inhabited

/-- A cluster with more characters at its end, which add cells. -/
def Cluster.extend (k : Cluster) (chars : List Char) (cells : Nat) : Cluster :=
  ⟨k.chars ++ chars, k.cells + cells⟩

/-- The clusters of a text that follow a begun one, of which `last` has not been widened yet. -/
def clustersAfter (last : Option Char) : Option Cluster → List Char → List Cluster
  | current, [] => current.toList
  | some k, '\u200d' :: [] => [k.extend ['\u200d'] 0]
  | some k, '\u200d' :: c :: cs => clustersAfter last (some (k.extend ['\u200d', c] 0)) cs
  | some k, '\ufe0f' :: cs =>
    clustersAfter none (some (k.extend ['\ufe0f'] (widening last))) cs
  | current, c :: cs =>
    match charWidth c, current with
    | 0, none => clustersAfter last (some ⟨[c], 0⟩) cs
    | 0, some k => clustersAfter last (some (k.extend [c] 0)) cs
    | cells + 1, current => current.toList ++ clustersAfter (some c) (some ⟨[c], cells + 1⟩) cs

/-- The clusters of a text. -/
def clusters (cs : List Char) : List Cluster :=
  clustersAfter none none cs

/-- The start of a text that fills a number of cells. A cluster that would be cut in two gives
way to a blank.
-/
def takeCells : Nat → List Cluster → List Char
  | 0, _ => []
  | _, [] => []
  | n + 1, k :: ks =>
    if k.cells ≤ n + 1 then k.chars ++ takeCells (n + 1 - k.cells) ks else [' ']

/-- A text with blanks after it up to a width. -/
def padded (target : Nat) (cs : List Char) : List Char :=
  cs ++ List.replicate (target - width cs) ' '

/-- A text that fills a width: with blanks after it, or cut and ended by an ellipsis. -/
def fitted (target : Nat) (cs : List Char) : List Char :=
  if width cs ≤ target then padded target cs
  else takeCells (target - 1) (clusters cs) ++ ['…']

end SchemaMarkup.Terminal
