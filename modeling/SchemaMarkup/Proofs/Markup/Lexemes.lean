import SchemaMarkup.Markup.Token
import SchemaMarkup.Proofs.Markup.Shut

/-! Cutting written text into tokens. Names, types, constraints and notes stay on the line they
are written on, whatever they hold, so that a line ends only where a line feed was written.
-/

namespace SchemaMarkup.Markup

open Text

namespace Token

/-- A token without the number of its line. -/
def unplaced : Token → Token
  | text s comment _ => text s comment 0
  | opening _ => opening 0
  | closing _ => closing 0

/-- The token of a finished line, without its number. -/
def finished (reversed : List Char) (comment : Option String) : List Token :=
  Pending.finish { reversed, comment, start := 0 }

/-- The tokens of the pieces that follow an unfinished line, without their numbers. -/
def unplacedTokens (reversed : List Char) (comment : Option String) : List Lexeme → List Token
  | [] => finished reversed comment
  | .newline :: ls => finished reversed comment ++ unplacedTokens [] none ls
  | .opening :: ls => finished reversed comment ++ opening 0 :: unplacedTokens [] none ls
  | .closing :: ls => finished reversed comment ++ closing 0 :: unplacedTokens [] none ls
  | .comment cs :: ls => unplacedTokens reversed (commentText cs) ls
  | l :: ls => unplacedTokens (l.chars.reverse ++ reversed) comment ls

theorem map_unplaced_finish (p : Pending)
    : p.finish.map unplaced = finished p.reversed p.comment := by
  simp only [finished, Pending.finish]
  split <;> rfl

/-- The numbers of lines do not matter for the tokens, by induction on the pieces. -/
theorem map_unplaced_ofLexemes (p : Pending) (line : Nat) (ls : List Lexeme)
    : (ofLexemes p line ls).map unplaced = unplacedTokens p.reversed p.comment ls := by
  fun_induction ofLexemes p line ls with
  | case1 p line => exact map_unplaced_finish p
  | case2 p line ls ih => rw [List.map_append, map_unplaced_finish, ih, unplacedTokens]
  | case3 p line ls ih =>
      rw [List.map_append, map_unplaced_finish, List.map_cons, ih, unplacedTokens]
      rfl
  | case4 p line ls ih =>
      rw [List.map_append, map_unplaced_finish, List.map_cons, ih, unplacedTokens]
      rfl
  | case5 p line cs ls ih => rw [ih, unplacedTokens]
  | case6 p line l ls h1 h2 h3 h4 ih =>
      rw [ih, unplacedTokens]
      · exact h1
      · exact h2
      · exact h3
      · exact h4

end Token

open Token

/-- The tokens of a text that follows an unfinished line, without their numbers. -/
def scanned (reversed : List Char) (comment : Option String) (cs : List Char) : List Token :=
  unplacedTokens reversed comment (Lexeme.ofText cs)

/-- The tokens of a text are those that follow an empty line. -/
theorem map_unplaced_scan (s : String)
    : (scan s).map unplaced = scanned [] none s.toList :=
  map_unplaced_ofLexemes _ _ _

variable {r : List Char} {k : Option String} {cs : List Char}

theorem scanned_cons (c : Char)
    : scanned r k (c :: cs)
      = unplacedTokens r k ((Lexeme.first c cs).1 :: Lexeme.ofText (Lexeme.first c cs).2) := by
  rw [scanned, Lexeme.ofText]

theorem scanned_newline
    : scanned r k ('\n' :: cs) = finished r k ++ scanned [] none cs :=
  scanned_cons '\n'

theorem scanned_opening
    : scanned r k ('\x7b' :: cs) = finished r k ++ opening 0 :: scanned [] none cs :=
  scanned_cons '\x7b'

theorem scanned_closing
    : scanned r k ('\x7d' :: cs) = finished r k ++ closing 0 :: scanned [] none cs :=
  scanned_cons '\x7d'

/-- Two slashes start a comment up to the end of the line. -/
theorem scanned_comment
    : scanned r k ('/' :: '/' :: cs)
      = scanned r (commentText ('/' :: '/' :: cs.takeWhile (· ≠ '\n')))
          (cs.dropWhile (· ≠ '\n')) :=
  scanned_cons '/'

/-- A character stays on the line if it neither opens a string nor ends the line, but a slash
before another one.
-/
theorem scanned_plain {c : Char} (unquoted : Literal.isQuote c = false)
    (goesOn : endsText c = false) (noComment : c = '/' → cs.head? ≠ some '/')
    : scanned r k (c :: cs) = scanned (c :: r) k cs := by
  have hf : Lexeme.first c cs = (.plain c, cs) := by
    unfold Lexeme.first
    split
    · cases unquoted
    · exact absurd rfl (noComment rfl)
    · cases goesOn
    · cases goesOn
    · cases goesOn
    · simp [unquoted]
  rw [scanned_cons, hf]
  rfl

/-- A string stays on the line as a whole. -/
theorem scanned_quoted {q : Char} (quote : Literal.isQuote q = true)
    (single : ¬ tripleQuote <+: q :: cs)
    : scanned r k (q :: cs)
      = scanned ((q :: (Lexeme.spanQuoted q cs).1).reverse ++ r) k (Lexeme.spanQuoted q cs).2 := by
  have hf : Lexeme.first q cs
      = (.quoted (q :: (Lexeme.spanQuoted q cs).1), (Lexeme.spanQuoted q cs).2) := by
    unfold Lexeme.first
    split
    · exact (of_not_triple single _ rfl rfl).elim
    · cases quote
    · cases quote
    · cases quote
    · cases quote
    · simp [quote]
  rw [scanned_cons, hf]
  rfl

/-- A block stays on the line as a whole, line feeds and all. -/
theorem scanned_block
    : scanned r k (tripleQuote ++ cs)
      = scanned ((tripleQuote ++ (Lexeme.spanBlock cs).1).reverse ++ r) k
          (Lexeme.spanBlock cs).2 :=
  scanned_cons '\''

-----------------------------------------------------------------------------------------
-- Strings character by character
-----------------------------------------------------------------------------------------

/-- The tokens of a text that follows an unfinished line with a string that may be open. -/
def scannedFrom (q : Quoting) (reversed : List Char) (comment : Option String) (cs : List Char)
    : List Token :=
  match q with
  | .plain => scanned reversed comment cs
  | .quoted quote =>
    scanned ((Lexeme.spanQuoted quote cs).1.reverse ++ reversed) comment
      (Lexeme.spanQuoted quote cs).2
  | .block =>
    scanned ((Lexeme.spanBlock cs).1.reverse ++ reversed) comment (Lexeme.spanBlock cs).2

variable {w : List Char} {q q' : Quoting}

/-- What leads on without ending the line stays on it. -/
theorem Step.scannedFrom (h : Step endsText q w cs q')
    : scannedFrom q r k (w ++ cs) = Markup.scannedFrom q' (w.reverse ++ r) k cs := by
  cases h with
  | openBlock =>
      simp only [Markup.scannedFrom]
      rw [scanned_block, List.reverse_append, List.append_assoc]
  | closeBlock =>
      simp only [Markup.scannedFrom]
      rfl
  | @inBlock c _ open_ =>
      have hspan : Lexeme.spanBlock (c :: cs)
          = (c :: (Lexeme.spanBlock cs).1, (Lexeme.spanBlock cs).2) := by
        rw [Lexeme.spanBlock]
        exact of_not_triple open_
      simp [Markup.scannedFrom, hspan]
  | openQuote quote single =>
      simp only [Markup.scannedFrom]
      rw [List.singleton_append, scanned_quoted quote single]
      simp
  | @closeQuote q quote =>
      have hspan : Lexeme.spanQuoted q (q :: cs) = ([q], cs) := by
        rw [Lexeme.spanQuoted, if_pos rfl]
        · exact (ne_of_isQuote quote).2
        · exact fun _ _ he => absurd he (ne_of_isQuote quote).1
      simp [Markup.scannedFrom, hspan]
  | escaped q c =>
      have hspan : Lexeme.spanQuoted q ('\\' :: c :: cs)
          = ('\\' :: c :: (Lexeme.spanQuoted q cs).1, (Lexeme.spanQuoted q cs).2) := by
        rw [Lexeme.spanQuoted]
      simp [Markup.scannedFrom, hspan]
  | @inQuote q c _ open_ line bare =>
      have hspan : Lexeme.spanQuoted q (c :: cs)
          = (c :: (Lexeme.spanQuoted q cs).1, (Lexeme.spanQuoted q cs).2) := by
        rw [Lexeme.spanQuoted, if_neg open_]
        · exact line
        · intro d ds hc hr
          rw [bare hc] at hr
          cases hr
      simp [Markup.scannedFrom, hspan]
  | plain unquoted goesOn noComment => exact scanned_plain unquoted goesOn noComment

/-- Where a text leads without ending the line, its characters stay on the line. -/
theorem Leads.scannedFrom {s : List Char} (h : Leads endsText cs q s q')
    : scannedFrom q r k (s ++ cs) = Markup.scannedFrom q' (s.reverse ++ r) k cs := by
  induction h generalizing r with
  | nil => rfl
  | cons step _ ih =>
      rw [List.append_assoc, step.scannedFrom, ih, List.reverse_append, List.append_assoc]

/-- A text that closes its strings stays on its line. -/
theorem Leads.scanned_append {s : List Char} (h : Leads endsText cs .plain s .plain)
    : scanned r k (s ++ cs) = scanned (s.reverse ++ r) k cs :=
  h.scannedFrom

/-- A text at the end of a line stays on it, and the line feed ends the line. -/
theorem EndsLine.scanned_append {s : List Char} (h : EndsLine s)
    : scanned r k (s ++ '\n' :: cs) = finished (s.reverse ++ r) k ++ scanned [] none cs := by
  obtain ⟨q, hq, hl⟩ := settled_iff.mp h.1
  have closed (quote : Char) (he : q = .quoted quote) : s.getLast? ≠ some '\\' := by
    intro hb
    have hs : some q = some .plain := hl.quotingAfter?_eq.symm.trans (h.2 hb)
    rw [Option.some.inj hs] at he
    cases he
  have hfeed : Leads endsText ('\n' :: cs) .plain s q :=
    hl.before (apart_cons (by decide)) fun _ => closed
  have hscan : scanned r k (s ++ '\n' :: cs) = scannedFrom q (s.reverse ++ r) k ('\n' :: cs) :=
    hfeed.scannedFrom
  rw [hscan, ← scanned_newline]
  cases q with
  | block => exact absurd rfl hq
  | plain => rfl
  | quoted quote => rfl

end SchemaMarkup.Markup
