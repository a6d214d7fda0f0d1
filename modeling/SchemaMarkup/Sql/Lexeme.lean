/-! The words, names, numbers and signs of an SQL statement. What stands between them, blanks and
comments, is kept with the lexeme that follows, so that the text of several lexemes can be put
together again.
-/

namespace SchemaMarkup.Sql

/-- What a lexeme is. -/
inductive LexemeKind where
  /-- A name or keyword without quotes. -/
  | word
  /-- A name in double quotes, backticks or square brackets. -/
  | quotedName
  /-- A text in single quotes. -/
  | string
  | number
  /-- A bracket, a comma or an operator. -/
  | sign
  /-- Bytes in hexadecimal digits. -/
  | bytes
  /-- A name or number that stands for a value. -/
  | parameter
  /-- Something that cannot be read. -/
  | unreadable
deriving DecidableEq, Repr, Inhabited

/-- A lexeme with the blanks and comments before it. -/
structure Lexeme where
  gap : List Char
  text : List Char
  kind : LexemeKind
deriving DecidableEq, Repr, Inhabited

-----------------------------------------------------------------------------------------
-- Blanks and comments
-----------------------------------------------------------------------------------------

/-- Whether a character separates lexemes. -/
def isSqlBlank (c : Char) : Bool :=
  c = ' ' || c = '\t' || c = '\n' || c = '\x0c' || c = '\r'

/-- Whether a character separates lexemes where another stands before it. A vertical tab does so
only after a blank.
-/
def isSqlBlankAfter (before : Option Char) (c : Char) : Bool :=
  isSqlBlank c || c = '\ufeff' || c = '\x0b' && before.any fun b => isSqlBlank b || b = '\x0b'

/-- What a gap between lexemes is passing over. -/
inductive GapPart where
  | blanks
  /-- A comment to the end of its line. -/
  | line
  /-- A comment between its own brackets. -/
  | block
deriving DecidableEq, Repr, Inhabited

/-- A gap that has been begun, which is held in reverse, up to its end, and what follows it. -/
def splitGap : GapPart → List Char → List Char → List Char × List Char
  | _, reversed, [] => (reversed.reverse, [])
  | .blanks, reversed, '-' :: '-' :: cs => splitGap .line ('-' :: '-' :: reversed) cs
  | .blanks, reversed, '/' :: '*' :: cs => splitGap .block ('*' :: '/' :: reversed) cs
  | .blanks, reversed, c :: cs =>
    if isSqlBlankAfter reversed.head? c then splitGap .blanks (c :: reversed) cs
    else (reversed.reverse, c :: cs)
  | .line, reversed, c :: cs =>
    splitGap (if c = '\n' then .blanks else .line) (c :: reversed) cs
  | .block, reversed, '*' :: '/' :: cs => splitGap .blanks ('/' :: '*' :: reversed) cs
  | .block, reversed, c :: cs => splitGap .block (c :: reversed) cs

/-- What follows a gap is no longer than what the gap began with. -/
theorem length_splitGap_le (part : GapPart) (reversed cs : List Char)
    : (splitGap part reversed cs).2.length ≤ cs.length := by
  fun_induction splitGap part reversed cs with
  | case1 | case5 => simp
  | case2 _ _ ih | case3 _ _ ih | case7 _ _ ih => simp only [List.length_cons]; omega
  | case4 _ _ _ _ _ _ ih | case6 _ _ _ ih | case8 _ _ _ _ ih => simp only [List.length_cons]; omega

-----------------------------------------------------------------------------------------
-- Single lexemes
-----------------------------------------------------------------------------------------

/-- Whether a character may stand in a name without quotes, other than as its first. -/
def isSqlNameChar (c : Char) : Bool :=
  c.isAlphanum || c = '_' || c = '$' || 128 ≤ c.toNat

/-- What follows an opening quote up to its closing quote. A doubled quote closes nothing. -/
def throughQuote? (quote : Char) : List Char → Option (List Char)
  | [] => none
  | c :: cs =>
    if c ≠ quote then (throughQuote? quote cs).map (c :: ·)
    else match cs with
      | d :: cs =>
        if d = quote then (throughQuote? quote cs).map fun r => c :: d :: r else some [c]
      | [] => some [c]

/-- The digits with which a text begins. -/
def digitsOf (cs : List Char) : List Char :=
  cs.takeWhile Char.isDigit

/-- The fraction with which a text begins. -/
def fractionOf : List Char → List Char
  | '.' :: cs => '.' :: digitsOf cs
  | _ => []

/-- The exponent with which a text begins. It has at least one digit. -/
def exponentOf : List Char → List Char
  | e :: cs =>
    let sign := (cs.take 1).filter fun c => c = '+' || c = '-'
    let digits := digitsOf (cs.drop sign.length)
    if (e = 'e' || e = 'E') && !digits.isEmpty then e :: sign ++ digits else []
  | [] => []

/-- The number with which a text begins. Letters may not follow it. -/
def numberOf (cs : List Char) : LexemeKind × List Char :=
  let decimal :=
    let whole := digitsOf cs
    let fraction := fractionOf (cs.drop whole.length)
    whole ++ fraction ++ exponentOf (cs.drop (whole.length + fraction.length))
  let number :=
    match cs with
    | '0' :: x :: rest =>
      let digits := rest.takeWhile fun c =>
        c.isDigit || ('a' ≤ c && c ≤ 'f') || ('A' ≤ c && c ≤ 'F')
      if (x = 'x' || x = 'X') && !digits.isEmpty then '0' :: x :: digits else decimal
    | _ => decimal
  match (cs.drop number.length).takeWhile isSqlNameChar with
  | [] => (.number, number)
  | more => (.unreadable, number ++ more)

/-- What follows the first character of a parameter: a name, in which double colons may stand,
and perhaps more in brackets. A parameter without a name or without its closing bracket is
unreadable.
-/
def parameterOf (isNamed : Bool) : List Char → LexemeKind × List Char
  | ':' :: ':' :: cs =>
    let (kind, rest) := parameterOf isNamed cs
    (kind, ':' :: ':' :: rest)
  | c :: cs =>
    if isSqlNameChar c then
      let (kind, rest) := parameterOf true cs
      (kind, c :: rest)
    else if c = '(' && isNamed then
      let inner := cs.takeWhile fun c => !isSqlBlank c && c ≠ ')'
      if (cs.drop inner.length).head? = some ')' then (.parameter, c :: inner ++ [')'])
      else (.unreadable, c :: inner)
    else (if isNamed then .parameter else .unreadable, [])
  | [] => (if isNamed then .parameter else .unreadable, [])

/-- Signs of several characters, longer ones before their beginnings. -/
def longSigns : List (List Char) :=
  [['-', '>', '>'], ['-', '>'], ['|', '|'], ['<', '='], ['<', '>'], ['<', '<'], ['>', '='],
    ['>', '>'], ['=', '='], ['!', '=']]

/-- Signs of one character. -/
def shortSigns : List Char :=
  ['(', ')', ';', '+', '-', '*', '/', '%', '=', '<', '>', '|', ',', '&', '~', '.']

/-- The lexeme that begins with a character, which is not blank, by what follows it. -/
def readLexeme (c : Char) (cs : List Char) : LexemeKind × List Char :=
  let quoted (kind : LexemeKind) (closing : Char) : LexemeKind × List Char :=
    match throughQuote? closing cs with
    | some rest => (kind, c :: rest)
    | none => (.unreadable, c :: cs)
  if c = '"' || c = '\x60' then quoted .quotedName c
  else if c = '[' then
    match cs.dropWhile (· ≠ ']') with
    | [] => (.unreadable, c :: cs)
    | _ :: _ => (.quotedName, c :: cs.takeWhile (· ≠ ']') ++ [']'])
  else if c = '\'' then quoted .string c
  else if (c = 'x' || c = 'X') && cs.head? = some '\'' then
    let bytes := (cs.drop 1).takeWhile (· ≠ '\'')
    let isClosed := cs.length > bytes.length + 1
    let isReadable := bytes.length % 2 = 0 && bytes.all fun c =>
      c.isDigit || ('a' ≤ c && c ≤ 'f') || ('A' ≤ c && c ≤ 'F')
    (if isClosed && isReadable then .bytes else .unreadable, c :: cs.take (bytes.length + 2))
  else if c.isDigit || (c = '.' && cs.head?.any Char.isDigit) then numberOf (c :: cs)
  else if c ≠ '$' && isSqlNameChar c then (.word, c :: cs.takeWhile isSqlNameChar)
  else if c = '?' then (.parameter, c :: digitsOf cs)
  else if c = '$' || c = '@' || c = ':' || c = '#' then
    let (kind, rest) := parameterOf false cs
    (kind, c :: rest)
  else match longSigns.find? (·.isPrefixOf (c :: cs)) with
    | some sign => (.sign, sign)
    | none => (if c ∈ shortSigns then .sign else .unreadable, [c])

-----------------------------------------------------------------------------------------
-- All lexemes
-----------------------------------------------------------------------------------------

/-- The lexemes of a text. -/
def lexemes (cs : List Char) : List Lexeme :=
  match _ : splitGap .blanks [] cs with
  | (_, []) => []
  | (gap, c :: rest) =>
    let (kind, text) := readLexeme c rest
    -- A lexeme has at least one character, so only what may follow that one is dropped.
    ⟨gap, text, kind⟩ :: lexemes (rest.drop (text.length - 1))
termination_by cs.length
decreasing_by
  have hle := length_splitGap_le .blanks [] cs
  simp only [‹splitGap .blanks [] cs = _›, List.length_cons] at hle
  simp only [List.length_drop]
  omega

namespace Lexeme

/-- The text of a lexeme in capitals. -/
def capitals (l : Lexeme) : String :=
  String.ofList (l.text.map Char.toUpper)

/-- Whether a lexeme is a keyword, which is given in capitals. -/
def isKeyword (l : Lexeme) (keyword : String) : Bool :=
  l.kind = .word && l.capitals = keyword

/-- Whether a lexeme is a sign. -/
def isSign (l : Lexeme) (sign : Char) : Bool :=
  l.kind = .sign && l.text = [sign]

/-- What stands between quotes, with doubled quotes taken once. -/
def unquotedFrom (quote : Char) : List Char → List Char
  | [] => []
  | c :: cs =>
    if c ≠ quote then c :: unquotedFrom quote cs
    else match cs with
      | d :: cs => if d = quote then c :: unquotedFrom quote cs else []
      | [] => []

/-- A text without its quotes and all that follows them, or the text itself if it is not
quoted.
-/
def unquoted (cs : List Char) : List Char :=
  match cs with
  | '[' :: cs => unquotedFrom ']' cs
  | c :: rest => if c = '"' || c = '\'' || c = '\x60' then unquotedFrom c rest else cs
  | [] => []

/-- The name that a lexeme stands for. -/
def name (l : Lexeme) : String :=
  String.ofList (if l.kind = .word then l.text else unquoted l.text)

/-- The written text of lexemes, without the gap before the first. -/
def textOf : List Lexeme → List Char
  | [] => []
  | l :: ls => l.text ++ ls.flatMap fun l => l.gap ++ l.text

end Lexeme
end SchemaMarkup.Sql
