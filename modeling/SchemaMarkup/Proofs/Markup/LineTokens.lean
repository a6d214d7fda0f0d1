import SchemaMarkup.Proofs.Markup.LogicalLines
import SchemaMarkup.Proofs.Markup.Statements

/-! Texts that are scanned line by line. Where every string and every comment ends on the
logical line on which it starts, the tokens of a text are those of its logical lines one after
the other, and so lines can be left out without any effect on how the others are read.
-/

namespace SchemaMarkup.Markup

open Token

/-- Whether the pieces of a line end with it: a line feed after the line is a piece of its own.
-/
def IsClosed (line : List Char) : Prop :=
  Lexeme.ofText (line ++ ['\n']) = Lexeme.ofText line ++ [.newline]

instance (line : List Char) : Decidable (IsClosed line) :=
  inferInstanceAs (Decidable (Lexeme.ofText (line ++ ['\n']) = Lexeme.ofText line ++ [.newline]))

/-- The tokens of a line by itself. -/
def lineTokens (line : List Char) : List Token :=
  scanned [] none line

namespace Lexeme

variable {quote c : Char} {s : List Char}

/-- A backslash before a line feed keeps it in the string. -/
theorem spanQuoted_backslash
    : spanQuoted quote ['\\', '\n'] = (['\\', '\n'], []) := by
  rw [spanQuoted, spanQuoted]

/-- A string that does not go on after a line feed does not end with a backslash, which would take
the line feed into it.
-/
theorem ne_backslash {t : List Char} (last : ∀ d ds, c = '\\' → s = d :: ds → False)
    (h : (spanQuoted quote (c :: s ++ ['\n'])).1 = c :: t) (empty : s = [] → t = [])
    : c ≠ '\\' := by
  rintro rfl
  cases s with
  | nil =>
      rw [empty rfl] at h
      simp [spanQuoted_backslash] at h
  | cons d s => exact last d s rfl rfl

/-- A string that does not go on after a line feed ends before it, whatever follows. By
induction.
-/
theorem spanQuoted_append_newline
    (h : (spanQuoted quote (s ++ ['\n'])).1 = (spanQuoted quote s).1) (cs : List Char)
    : spanQuoted quote (s ++ '\n' :: cs)
      = ((spanQuoted quote s).1, (spanQuoted quote s).2 ++ '\n' :: cs) := by
  fun_induction spanQuoted quote s with
  | case1 => rw [List.nil_append, spanQuoted]
  | case2 s => rw [List.cons_append, spanQuoted]
  | case3 c s t rest ht ih =>
      rw [List.cons_append, List.cons_append, spanQuoted] at h
      rw [List.cons_append, List.cons_append, spanQuoted, ih (by simpa [ht] using h)]
      simp [ht]
  | case4 s hne hesc =>
      have hb : quote ≠ '\\' := ne_backslash hesc h fun _ => rfl
      rw [List.cons_append, spanQuoted]
      · exact if_pos rfl
      · exact hne
      · exact fun _ _ he => absurd he hb
  | case5 c s hne hesc hq t rest ht ih =>
      have empty : s = [] → t = [] := by
        rintro rfl
        rw [spanQuoted] at ht
        exact (Prod.mk.inj ht).1.symm
      have hb : c ≠ '\\' := ne_backslash hesc h empty
      have hstep (cs : List Char)
          : spanQuoted quote (c :: s ++ cs)
            = (c :: (spanQuoted quote (s ++ cs)).1, (spanQuoted quote (s ++ cs)).2) := by
        rw [List.cons_append, spanQuoted]
        · exact if_neg hq
        · exact hne
        · exact fun _ _ he => absurd he hb
      rw [hstep] at h
      rw [hstep, ih (by simpa [ht] using h), ht]

/-- A line feed does not complete two single quotes. -/
theorem not_quotes_append_newline (h : ∀ ds, s = '\'' :: '\'' :: ds → False) (cs ds : List Char)
    : s ++ '\n' :: cs = '\'' :: '\'' :: ds → False := by
  rcases s with _ | ⟨a, _ | ⟨b, s⟩⟩
  · simp
  · simp
  · intro he
    simp only [List.cons_append, List.cons.injEq] at he
    exact h s (by rw [he.1, he.2.1])

/-- A block that does not go on after a line feed ends before it, whatever follows. By
induction.
-/
theorem spanBlock_append_newline
    (h : (spanBlock (s ++ ['\n'])).1 = (spanBlock s).1) (cs : List Char)
    : spanBlock (s ++ '\n' :: cs) = ((spanBlock s).1, (spanBlock s).2 ++ '\n' :: cs) := by
  fun_induction spanBlock s with
  | case1 s => rfl
  | case2 => cases h
  | case3 c s hne t rest ht ih =>
      have hstep (cs : List Char)
          : spanBlock (c :: s ++ '\n' :: cs)
            = (c :: (spanBlock (s ++ '\n' :: cs)).1, (spanBlock (s ++ '\n' :: cs)).2) := by
        rw [List.cons_append, spanBlock]
        exact fun ds hc => not_quotes_append_newline (fun ds => hne ds hc) cs ds
      rw [hstep] at h
      rw [hstep, ih (by simpa [ht] using h), ht]

/-- A comment ends before a line feed that follows it. By induction on the comment. -/
theorem span_append_newline (s cs : List Char)
    : (s ++ '\n' :: cs).takeWhile (· ≠ '\n') = s.takeWhile (· ≠ '\n')
      ∧ (s ++ '\n' :: cs).dropWhile (· ≠ '\n') = s.dropWhile (· ≠ '\n') ++ '\n' :: cs := by
  induction s with
  | nil => simp
  | cons c s ih =>
      by_cases hc : c = '\n'
      · simp [hc]
      · simpa [hc] using ih

/-- Whether a text begins with a string of one line or a plain character. -/
structure BeginsPlainly (c : Char) (s : List Char) : Prop where
  noBlock : ∀ ds, c = '\'' → s = '\'' :: '\'' :: ds → False
  noComment : ∀ ds, c = '/' → s = '/' :: ds → False
  noOpening : c ≠ '\x7b'
  noClosing : c ≠ '\x7d'
  noNewline : c ≠ '\n'

theorem BeginsPlainly.append_newline (h : BeginsPlainly c s) (cs : List Char)
    : BeginsPlainly c (s ++ '\n' :: cs) := by
  refine { h with noBlock := ?_, noComment := ?_ }
  · exact fun ds hc => not_quotes_append_newline (fun ds => h.noBlock ds hc) cs ds
  · intro ds hc hs
    cases s with
    | nil => simp at hs
    | cons d s => exact h.noComment s hc (by rw [(List.cons.inj hs).1])

theorem BeginsPlainly.first_eq (h : BeginsPlainly c s)
    : first c s
      = if Literal.isQuote c then (quoted (c :: (spanQuoted c s).1), (spanQuoted c s).2)
        else (plain c, s) := by
  rw [first]
  · exact h.noOpening
  · exact h.noClosing
  · exact h.noNewline
  · exact h.noBlock
  · exact h.noComment

/-- The first piece of a line that ends before a line feed does so whatever follows. -/
theorem first_append_newline (h : (first c (s ++ ['\n'])).1 = (first c s).1) (cs : List Char)
    : first c (s ++ '\n' :: cs) = ((first c s).1, (first c s).2 ++ '\n' :: cs) := by
  fun_cases first c s with
  | case1 s t rest ht =>
      have hb : (spanBlock (s ++ ['\n'])).1 = (spanBlock s).1 := by
        simpa [first] using h
      rw [List.cons_append, List.cons_append, first, spanBlock_append_newline hb, ht]
  | case2 s =>
      obtain ⟨ht, hd⟩ := span_append_newline s cs
      rw [List.cons_append, first, ht, hd]
  | case3 => rfl
  | case4 => rfl
  | case5 => rfl
  | case6 c s h1 h2 h3 h4 h5 hq t rest ht =>
      have begins : BeginsPlainly c s := ⟨h1, h2, h3, h4, h5⟩
      have hs : (spanQuoted c (s ++ ['\n'])).1 = (spanQuoted c s).1 := by
        rw [(begins.append_newline []).first_eq, begins.first_eq] at h
        simpa [hq] using h
      rw [(begins.append_newline cs).first_eq, if_pos hq, spanQuoted_append_newline hs, ht]
  | case7 c s h1 h2 h3 h4 h5 hq =>
      have begins : BeginsPlainly c s := ⟨h1, h2, h3, h4, h5⟩
      rw [(begins.append_newline cs).first_eq, if_neg hq]

end Lexeme

/-- The pieces of a line that ends by itself come first, whatever follows its line feed. By
induction on the pieces.
-/
theorem IsClosed.ofText_append {line : List Char} (h : IsClosed line) (cs : List Char)
    : Lexeme.ofText (line ++ '\n' :: cs)
      = Lexeme.ofText line ++ .newline :: Lexeme.ofText cs := by
  rw [IsClosed] at h
  fun_induction Lexeme.ofText line with
  | case1 => rw [List.nil_append, Lexeme.ofText]; rfl
  | case2 c s ih =>
      rw [List.cons_append, Lexeme.ofText, List.cons_append] at h
      obtain ⟨hf, hr⟩ := List.cons.inj h
      have hfirst := Lexeme.first_append_newline hf
      rw [hfirst] at hr
      rw [List.cons_append, Lexeme.ofText, hfirst, ih hr, List.cons_append]

/-- Tokens do not reach over a line feed, by induction on the pieces before it. -/
theorem unplacedTokens_append_newline (reversed : List Char) (comment : Option String)
    (ls ms : List Lexeme)
    : unplacedTokens reversed comment (ls ++ .newline :: ms)
      = unplacedTokens reversed comment ls ++ unplacedTokens [] none ms := by
  fun_induction unplacedTokens reversed comment ls with
  | case1 reversed comment => rw [List.nil_append, unplacedTokens]
  | case2 reversed comment ls ih => simp [unplacedTokens, ih]
  | case3 reversed comment ls ih => simp [unplacedTokens, ih]
  | case4 reversed comment ls ih => simp [unplacedTokens, ih]
  | case5 reversed comment cs ls ih => simp [unplacedTokens, ih]
  | case6 reversed comment l ls h1 h2 h3 h4 ih =>
      rw [List.cons_append, unplacedTokens, ih]
      · exact h1
      · exact h2
      · exact h3
      · exact h4

/-- The tokens of lines that end by themselves are those of the lines one after the other, by
induction on the lines.
-/
theorem scanned_intercalate {ls : List (List Char)} (h : ∀ l ∈ ls, IsClosed l)
    : scanned [] none (['\n'].intercalate ls) = ls.flatMap lineTokens := by
  induction ls with
  | nil => simp [scanned, Lexeme.ofText]; rfl
  | cons l ls ih =>
      cases ls with
      | nil => simp [lineTokens]
      | cons l' ls =>
          have hl := h l List.mem_cons_self
          have hs := ih fun m hm => h m (List.mem_cons_of_mem l hm)
          rw [List.intercalate_cons_of_ne_nil (List.cons_ne_nil l' ls), List.flatMap_cons, ← hs,
            List.append_assoc, List.singleton_append, scanned, hl.ofText_append,
            unplacedTokens_append_newline]
          rfl

/-- The tokens of a text without their numbers, if its logical lines end by themselves. -/
theorem map_unplaced_scan_lines {text : String}
    (h : ∀ l ∈ logicalLines text.toList, IsClosed l)
    : (scan text).map unplaced = (logicalLines text.toList).flatMap lineTokens := by
  rw [map_unplaced_scan, ← scanned_intercalate h, intercalate_logicalLines]

end SchemaMarkup.Markup
