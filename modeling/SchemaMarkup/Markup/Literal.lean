import SchemaMarkup.Text.Blank

/-! Notes as string literals. A note of several lines stands between triple quotes as it is;
a note of one line stands between double quotes with quotes and backslashes escaped.
-/

namespace SchemaMarkup.Markup

/-- The three single quotes around a text of several lines. -/
def tripleQuote : List Char :=
  ['\'', '\'', '\'']

namespace Literal

/-- Whether a character opens and closes a string of one line. -/
def isQuote (c : Char) : Bool :=
  c = '"' || c = '\''

/-- Every backslash taken away together with its hold on the next character. -/
def unescape : List Char → List Char
  | '\\' :: c :: cs => c :: unescape cs
  | c :: cs => c :: unescape cs
  | [] => []

/-- A backslash put before every backslash and every double quote. -/
def escape : List Char → List Char
  | [] => []
  | c :: cs => if c = '\\' || c = '"' then '\\' :: c :: escape cs else c :: escape cs

/-- Escaping is undone by unescaping, by induction on the text. -/
@[simp]
theorem unescape_escape (cs : List Char)
    : unescape (escape cs) = cs := by
  induction cs with
  | nil => rfl
  | cons c cs ih =>
      by_cases h : c = '\\' ∨ c = '"'
      · simp [escape, h, unescape, ih]
      · have hb : c ≠ '\\' := fun hb => h (.inl hb)
        simp only [escape, Bool.or_eq_true, decide_eq_true_eq, h, if_false]
        rw [unescape]
        · rw [ih]
        · intro d ds hc
          exact absurd hc hb

/-- The text of a trimmed literal. -/
def decodeTrimmed (cs : List Char) : List Char :=
  if 6 ≤ cs.length ∧ tripleQuote.isPrefixOf cs ∧ tripleQuote.isSuffixOf cs then
    (cs.drop 3).take (cs.length - 6)
  else match cs with
    | q :: d :: ds =>
      if isQuote q && (d :: ds).getLast? == some q then unescape (d :: ds).dropLast else cs
    | _ => cs

/-- The text that a literal stands for; what is not quoted stands for itself, trimmed. -/
def decode (literal : String) : String :=
  String.ofList (decodeTrimmed (Text.trim literal.toList))

/-- The literal of a text. -/
def encode (value : String) : String :=
  if value.toList.contains '\n' then
    String.ofList (tripleQuote ++ value.toList ++ tripleQuote)
  else "\"" ++ String.ofList (escape value.toList) ++ "\""

end Literal
end SchemaMarkup.Markup
