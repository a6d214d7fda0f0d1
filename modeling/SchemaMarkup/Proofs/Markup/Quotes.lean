import Mathlib.Data.List.Infix
import SchemaMarkup.Markup.Constraint

/-! Texts whose quotes come in pairs. Text between double quotes may hold almost anything, text
outside of them none of the marks that cut a line, and a block ends at the first three single
quotes in a row.
-/

namespace SchemaMarkup.Markup

/-- Whether a character outside of quotes cuts a line, starts a string or ends a block. -/
def isMark (c : Char) : Bool :=
  c = ',' || c = '\'' || c = '\x7b' || c = '\x7d' || c = '\n'

/-- Whether a text that starts inside of double quotes or outside of them ends outside, with
neither backslash nor line feed inside, and neither mark nor two slashes in a row outside.
-/
def closesQuotes (inside : Bool) : List Char → Bool
  | [] => !inside
  | c :: cs =>
    if c = '"' then closesQuotes (!inside) cs
    else if inside then c ≠ '\\' && c ≠ '\n' && closesQuotes true cs
    else !isMark c && (c ≠ '/' || cs.head? ≠ some '/') && closesQuotes false cs

/-- A character inside of double quotes that neither closes them nor is forbidden there. -/
theorem closesQuotes_inside {c : Char} {cs : List Char} (hq : c ≠ '"')
    (h : closesQuotes true (c :: cs) = true)
    : c ≠ '\\' ∧ c ≠ '\n' ∧ closesQuotes true cs = true := by
  simpa [closesQuotes, hq, and_assoc] using h

/-- A character outside of double quotes that neither opens them nor is forbidden there. -/
theorem closesQuotes_outside {c : Char} {cs : List Char} (hq : c ≠ '"')
    (h : closesQuotes false (c :: cs) = true)
    : isMark c = false ∧ (c = '/' → cs.head? ≠ some '/') ∧ closesQuotes false cs = true := by
  rw [closesQuotes, if_neg hq] at h
  simp only [Bool.false_eq_true, if_false, Bool.and_eq_true, Bool.not_eq_true', Bool.or_eq_true,
    decide_eq_true_eq] at h
  exact ⟨h.1.1, fun hc => h.1.2.resolve_left (not_not.mpr hc), h.2⟩

theorem closesQuotes_quote {inside : Bool} {cs : List Char}
    (h : closesQuotes inside ('"' :: cs) = true)
    : closesQuotes (!inside) cs = true := by
  simpa [closesQuotes] using h

/-- Whether no three single quotes stand in a row. -/
def TripleFree (cs : List Char) : Prop :=
  ¬ tripleQuote <:+: cs

instance (cs : List Char) : Decidable (TripleFree cs) :=
  inferInstanceAs (Decidable (¬ _))

/-- Whether a note is read back as it is written: if it has several lines, they hold no triple
quotes.
-/
def PlainNote (note : String) : Prop :=
  '\n' ∈ note.toList → TripleFree note.toList

instance (note : String) : Decidable (PlainNote note) :=
  inferInstanceAs (Decidable (_ → _))

theorem TripleFree.tail {c : Char} {cs : List Char} (h : TripleFree (c :: cs))
    : TripleFree cs :=
  fun hi => h (hi.trans (List.suffix_cons c cs).isInfix)

/-- Before triple quotes, a text without them is one or two single quotes, or nothing, or
starts with a character that starts no triple quotes. By cases on its first three characters.
-/
theorem TripleFree.cases {cs : List Char} (h : TripleFree cs) (rest : List Char)
    : cs = [] ∨ cs = ['\''] ∨ cs = ['\'', '\'']
      ∨ ∃ d ds, cs = d :: ds ∧ TripleFree ds
          ∧ ∀ r, d :: (ds ++ (tripleQuote ++ rest)) ≠ '\'' :: '\'' :: '\'' :: r := by
  cases cs with
  | nil => exact .inl rfl
  | cons c cs =>
      have other (hne : ∀ r, c :: (cs ++ (tripleQuote ++ rest)) ≠ '\'' :: '\'' :: '\'' :: r)
          : ∃ d ds, c :: cs = d :: ds ∧ TripleFree ds
            ∧ ∀ r, d :: (ds ++ (tripleQuote ++ rest)) ≠ '\'' :: '\'' :: '\'' :: r :=
        ⟨c, cs, rfl, h.tail, hne⟩
      by_cases hc : c = '\''
      · subst hc
        cases cs with
        | nil => exact .inr (.inl rfl)
        | cons d cs =>
            by_cases hd : d = '\''
            · subst hd
              cases cs with
              | nil => exact .inr (.inr (.inl rfl))
              | cons e cs =>
                  have he : e ≠ '\'' := by
                    intro he
                    subst he
                    exact h ⟨[], cs, rfl⟩
                  refine .inr (.inr (.inr (other ?_)))
                  intro r hr
                  simp only [List.cons_append, List.cons.injEq] at hr
                  exact he hr.2.2.1
            · refine .inr (.inr (.inr (other ?_)))
              intro r hr
              simp only [List.cons_append, List.cons.injEq] at hr
              exact hd hr.2.1
      · refine .inr (.inr (.inr (other ?_)))
        intro r hr
        exact hc (List.cons.inj hr).1

end SchemaMarkup.Markup
