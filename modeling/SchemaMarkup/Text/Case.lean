import SchemaMarkup.Text.CapitalRanges
import SchemaMarkup.Text.CaseRanges
import SchemaMarkup.Text.Ranges

/-! Letter case: the lower-case and the capital form of a text, and letters that agree when case
is ignored. Both forms are the full Unicode mapping, so they may lengthen a text, and the
lower-case form looks at the neighbours of a capital sigma.
-/

namespace SchemaMarkup.Text

/-- Whether a character is a letter with case that is not passed over in a word. -/
def isCased (c : Char) : Bool :=
  c.isAlpha || 128 ≤ c.toNat && inRanges casedRanges c.toNat

/-- Whether a character is passed over when looking for the nearest letter with case. -/
def isCaseIgnorable (c : Char) : Bool :=
  c == '\'' || c == '.' || c == ':' || c == '^' || c == '\x60'
    || 128 ≤ c.toNat && inRanges caseIgnorableRanges c.toNat

/-- The code point of the letter in the other case, by the run that holds it. -/
def CaseRun.other? (r : CaseRun) (n : Nat) : Option Nat :=
  if r.first ≤ n ∧ n ≤ r.last ∧ (n - r.first) % r.step = 0 then
    some ((n : Int) + r.shift).toNat
  else none

/-- The single lower-case letter of a character; other characters stand for themselves. -/
def lowerChar (c : Char) : Char :=
  if c.toNat < 128 then c.toLower
  else match lowerRuns.findSome? (·.other? c.toNat) with
    | some n => Char.ofNat n
    | none => c

/-- Whether the nearest letter that is not passed over has case. -/
def nextIsCased (cs : List Char) : Bool :=
  match cs.dropWhile isCaseIgnorable with
  | c :: _ => isCased c
  | [] => false

/-- The lower-case form of a text of which the part before it ended in a letter with case
or not. A capital sigma that ends a word becomes a final sigma, and the dotted capital I
becomes a small i with a dot above.
-/
def lowerFrom (afterCased : Bool) : List Char → List Char
  | [] => []
  | c :: cs =>
    let rest := lowerFrom (if isCaseIgnorable c then afterCased else isCased c) cs
    if c = 'Σ' then (if afterCased && !nextIsCased cs then 'ς' else 'σ') :: rest
    else if c = 'İ' then 'i' :: '\u0307' :: rest
    else lowerChar c :: rest

/-- The lower-case form of a string. -/
def lower (s : String) : String :=
  String.ofList (lowerFrom false s.toList)

/-- The capital form of a character, which may have several characters. -/
def upperChars (c : Char) : List Char :=
  if c.toNat < 128 then [c.toUpper]
  else match longCapitals.lookup c.toNat, upperRuns.findSome? (·.other? c.toNat) with
    | some capitals, _ => capitals.toList
    | none, some n => [Char.ofNat n]
    | none, none => [c]

/-- The capital form of a string. -/
def upper (s : String) : String :=
  String.ofList (s.toList.flatMap upperChars)

/-- A letter with its case forgotten; the long s counts as an s and the kelvin sign as a k. -/
def foldCase (c : Char) : Char :=
  if c = 'ſ' then 's' else if c = '\u212A' then 'k' else c.toLower

end SchemaMarkup.Text
