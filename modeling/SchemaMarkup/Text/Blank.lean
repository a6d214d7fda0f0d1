/-! White space, and trimming it from the ends of a text.
Every reader of the library separates words with this one set of characters.
-/

namespace SchemaMarkup.Text

/-- The characters that separate words: the white space of Unicode together with the four
information separators.
-/
def isBlank (c : Char) : Bool :=
  let n := c.toNat
  n == 0x20
    || (0x09 ≤ n && n ≤ 0x0D)
    || (0x1C ≤ n && n ≤ 0x1F)
    || n == 0x85
    || n == 0xA0
    || n == 0x1680
    || (0x2000 ≤ n && n ≤ 0x200A)
    || n == 0x2028
    || n == 0x2029
    || n == 0x202F
    || n == 0x205F
    || n == 0x3000

/-- The text without its leading white space. -/
def trimLeft (cs : List Char) : List Char :=
  cs.dropWhile isBlank

/-- The text without its trailing white space. -/
def trimRight (cs : List Char) : List Char :=
  (cs.reverse.dropWhile isBlank).reverse

/-- The text without white space at either end. -/
def trim (cs : List Char) : List Char :=
  trimRight (trimLeft cs)

/-- The string without white space at either end. -/
def trimmed (s : String) : String :=
  String.ofList (trim s.toList)

/-- Whether the string holds nothing but white space. -/
def isBlankText (s : String) : Bool :=
  s.toList.all isBlank

/-- A string that may be missing, taken as missing if it is empty. -/
def nonempty? (s : Option String) : Option String :=
  s.filter (· ≠ "")

end SchemaMarkup.Text
