import Mathlib.Data.List.Count
import SchemaMarkup.Markup.Token
import SchemaMarkup.Proofs.Text.Blank

/-! How tokens are counted in lines. Every line feed of a text moves the count on, but for those
in strings of one line, where a backslash keeps the line feed behind it. A token has the number that
the count has reached where the token begins, however the line goes on from there.
-/

namespace SchemaMarkup.Markup

open Text Token

-----------------------------------------------------------------------------------------
-- Line feeds inside and outside of strings of one line
-----------------------------------------------------------------------------------------

/-- The characters of a piece, each with whether it stands in a string of one line. -/
def Lexeme.marked : Lexeme → List (Char × Bool)
  | quoted cs => cs.map (·, true)
  | l => l.chars.map (·, false)

/-- The characters of a text, each with whether it stands in a string of one line. -/
def marked (cs : List Char) : List (Char × Bool) :=
  (Lexeme.ofText cs).flatMap Lexeme.marked

/-- The number of line feeds outside of strings of one line. -/
def feeds (ms : List (Char × Bool)) : Nat :=
  ms.count ('\n', false)

theorem Lexeme.map_fst_marked (l : Lexeme)
    : l.marked.map Prod.fst = l.chars := by
  cases l <;> simp [marked, chars, Function.comp_def]

theorem map_fst_marked (cs : List Char)
    : (marked cs).map Prod.fst = cs := by
  rw [marked, List.map_flatMap]
  simp only [Lexeme.map_fst_marked]
  exact Lexeme.flatMap_chars_ofText cs

@[simp]
theorem marked_nil
    : marked [] = [] := by
  rw [marked, Lexeme.ofText, List.flatMap_nil]

theorem marked_cons (c : Char) (cs : List Char)
    : marked (c :: cs) = (Lexeme.first c cs).1.marked ++ marked (Lexeme.first c cs).2 := by
  rw [marked, Lexeme.ofText, List.flatMap_cons]
  rfl

theorem marked_newline (cs : List Char)
    : marked ('\n' :: cs) = ('\n', false) :: marked cs :=
  marked_cons '\n' cs

theorem feeds_append (ms ms' : List (Char × Bool))
    : feeds (ms ++ ms') = feeds ms + feeds ms' :=
  List.count_append

theorem feeds_inside (cs : List Char)
    : feeds (cs.map (·, true)) = 0 := by
  simp [feeds, List.count_eq_zero]

theorem feeds_outside (cs : List Char)
    : feeds (cs.map (·, false)) = cs.count '\n' :=
  List.count_map_of_injective cs (·, false) (fun _ _ h => congrArg Prod.fst h) '\n'

/-- Whether a piece goes on a line that has begun. -/
def Lexeme.StaysOnLine : Lexeme → Prop
  | plain _ | quoted _ | block _ => True
  | _ => False

/-- A piece on a line moves the count of lines by its line feeds outside of strings of one line, and
none of them comes before its first visible character.
-/
theorem Lexeme.feeds_of_staysOnLine {c : Char} {cs : List Char}
    (stays : (first c cs).1.StaysOnLine)
    : feeds (first c cs).1.marked = linesIn (first c cs).1
      ∧ feeds ((first c cs).1.marked.takeWhile fun m => isBlank m.1) = 0 := by
  fun_cases first c cs with
  | case1 cs s rest h =>
      refine ⟨feeds_outside _, ?_⟩
      simp [marked, chars, tripleQuote, feeds, show isBlank '\'' = false from rfl]
  | case6 c cs _ _ _ _ _ quote s rest h =>
      refine ⟨feeds_inside _, ?_⟩
      have visible : isBlank c = false := by
        rcases Bool.or_eq_true_iff.mp quote with h | h
        · rw [of_decide_eq_true h]; rfl
        · rw [of_decide_eq_true h]; rfl
      simp [marked, feeds, visible]
  | case7 c cs _ _ _ _ plain _ =>
      have apart : (c, false) ≠ ('\n', false) := fun he => plain (congrArg Prod.fst he)
      cases hb : isBlank c <;> simp [marked, chars, feeds, linesIn, hb, apart]
  | _ => exact stays.elim

-----------------------------------------------------------------------------------------
-- Tokens in a text, each with the count where it begins
-----------------------------------------------------------------------------------------

/-- A comment goes on to the end of its line. -/
theorem Lexeme.of_first_eq_comment {c : Char} {cs w rest : List Char}
    (h : Lexeme.first c cs = (.comment w, rest))
    : ∃ v, '\n' ∉ v ∧ w = '/' :: '/' :: v ∧ ∀ d ∈ rest.head?, d = '\n' := by
  fun_cases Lexeme.first c cs with
  | case2 cs =>
      obtain ⟨hw, rfl⟩ := Prod.mk.inj h
      refine ⟨_, ?_, (Lexeme.comment.inj hw).symm, ?_⟩
      · intro hm
        simpa using List.mem_takeWhile_imp hm
      · intro d hd
        have hn := List.head?_dropWhile_not (fun c : Char => decide (c ≠ '\n')) cs
        rw [Option.mem_def.mp hd] at hn
        simpa using hn
  | _ => simp_all [Lexeme.first]

/-- How tokens lie in a text of which the first line has the given number: in order, with white
space and whole comments between them, and each with the number that the count of lines has reached.
-/
inductive Counted : Nat → List (Char × Bool) → List Token → Prop
  | nil {n : Nat}
    : Counted n [] []
  | blanks {n : Nat} {w ms : List (Char × Bool)} {ts : List Token}
    (blank : ∀ m ∈ w, isBlank m.1 = true) (rest : Counted (n + feeds w) ms ts)
    : Counted n (w ++ ms) ts
  | comment {n : Nat} {w : List Char} {ms : List (Char × Bool)} {ts : List Token}
    (line : '\n' ∉ w) (ends : ∀ c ∈ (ms.map Prod.fst).head?, c = '\n')
    (rest : Counted n ms ts)
    : Counted n (('/' :: '/' :: w).map (·, false) ++ ms) ts
  | token {n : Nat} {w ms : List (Char × Bool)} {ts : List Token} (t : Token)
    (reads : w.map Prod.fst = t.content.toList) (nonempty : t.content ≠ "")
    (trimmed : IsTrimmed t.content.toList) (number : t.line = n)
    (rest : Counted (n + feeds w) ms ts)
    : Counted n (w ++ ms) (t :: ts)

/-- What was read of an unfinished line, marked: it is what the line holds, and no line feed before
its first visible character moves the count on from where it began.
-/
structure HasRead (p : Pending) (read : List (Char × Bool)) : Prop where
  chars : read.map Prod.fst = p.reversed.reverse
  lead : feeds (read.takeWhile fun m => isBlank m.1) = 0

theorem hasRead_new (start : Nat)
    : HasRead { start } [] :=
  ⟨rfl, rfl⟩

/-- What a piece adds to a line that has begun does not come before its first visible character, if
the line has one already, and else does so without line feeds.
-/
theorem HasRead.append {p : Pending} {read ms : List (Char × Bool)} {cs : List Char}
    (h : HasRead p read) (chars : ms.map Prod.fst = cs)
    (lead : feeds (ms.takeWhile fun m => isBlank m.1) = 0)
    : HasRead { p with reversed := cs.reverse ++ p.reversed } (read ++ ms) where
  chars := by
    rw [List.map_append, h.chars, chars, List.reverse_append, List.reverse_reverse]
  lead := by
    rw [List.takeWhile_append]
    split
    · rename_i blank
      have lead' := h.lead
      rw [(List.takeWhile_prefix _).eq_of_length blank] at lead'
      rw [feeds_append, lead', lead]
    · exact h.lead

namespace Counted

variable {n : Nat} {ms : List (Char × Bool)} {ts : List Token}

/-- A finished line lies in what was read of it, with white space around. It has the number of the
line on which it began, since the white space before it does not move the count on.
-/
theorem finish {p : Pending} {read : List (Char × Bool)} (h : HasRead p read)
    (rest : Counted (p.start + feeds read) ms ts)
    : Counted p.start (read ++ ms) (p.finish ++ ts) := by
  obtain ⟨before, after, hb, ha, he⟩ := exists_padding p.reversed.reverse
  have trimmed := isTrimmed_trim p.reversed.reverse
  obtain ⟨_, wa, rfl, hw, hwa⟩ := List.map_eq_append_iff.mp (h.chars.trans he)
  obtain ⟨wb, wt, rfl, hwb, hwt⟩ := List.map_eq_append_iff.mp hw
  have blankBefore : ∀ m ∈ wb, isBlank m.1 = true := fun m hm =>
    hb m.1 (hwb ▸ List.mem_map_of_mem hm)
  have blankAfter : ∀ m ∈ wa, isBlank m.1 = true := fun m hm =>
    ha m.1 (hwa ▸ List.mem_map_of_mem hm)
  have tail : Counted (p.start + feeds wb + feeds wt) (wa ++ ms) ts := by
    refine blanks blankAfter ?_
    rwa [Nat.add_assoc, Nat.add_assoc, ← feeds_append, ← feeds_append, ← List.append_assoc]
  rw [List.append_assoc, List.append_assoc, Pending.finish]
  refine blanks blankBefore ?_
  cases ht : trim p.reversed.reverse with
  | nil =>
      rw [ht, List.map_eq_nil_iff] at hwt
      rwa [hwt] at tail ⊢
  | cons c cs =>
      rw [ht] at hwt trimmed
      have lead : feeds wb = 0 := by
        obtain ⟨m, wt, rfl, hm, _⟩ := List.map_eq_cons_iff.mp hwt
        have visible : isBlank m.1 = false := hm ▸ trimmed.1 c rfl
        have lead := h.lead
        rwa [List.append_assoc, List.takeWhile_append_of_pos blankBefore, List.cons_append,
          List.takeWhile_cons_of_neg (by simp [visible]), List.append_nil] at lead
      refine token (.text (String.ofList (c :: cs)) p.comment p.start) ?_ ?_ ?_ ?_ tail
      · simpa [content] using hwt
      · simp [content]
      · simpa [content] using trimmed
      · rw [lead]
        rfl

/-- A character that is no white space makes a token of its own where it stands. -/
theorem single {c : Char} (t : Token) (reads : t.content.toList = [c])
    (visible : isBlank c = false) (apart : c ≠ '\n') (rest : Counted t.line ms ts)
    : Counted t.line ((c, false) :: ms) (t :: ts) := by
  have moves : feeds [(c, false)] = 0 := by simp [feeds, apart]
  refine token (w := [(c, false)]) t reads.symm ?_ ?_ rfl (by rwa [moves])
  · intro empty
    rw [empty] at reads
    cases reads
  · rw [reads]
    exact ⟨by simpa using visible, by simpa using visible⟩

/-- A line feed ends a line and moves the count on. -/
theorem newline (rest : Counted (n + 1) ms ts)
    : Counted n (('\n', false) :: ms) ts :=
  blanks (w := [('\n', false)]) (by simp; decide) rest

/-- The tokens that follow an unfinished line lie in what was read of it and what follows, by
induction on the length of what follows.
-/
theorem ofLexemes {p : Pending} {read : List (Char × Bool)} {line : Nat} (cs : List Char)
    (h : HasRead p read) (count : line = p.start + feeds read)
    : Counted p.start (read ++ marked cs) (Token.ofLexemes p line (Lexeme.ofText cs)) := by
  induction hn : cs.length using Nat.strong_induction_on generalizing p read line cs with
  | _ n ih =>
      subst hn
      subst count
      cases cs with
      | nil =>
          rw [Lexeme.ofText, Token.ofLexemes]
          simpa using finish h .nil
      | cons c cs =>
          have less := Lexeme.length_first_lt c cs
          have stays := @Lexeme.feeds_of_staysOnLine c cs
          rw [Lexeme.ofText, marked_cons]
          rcases hf : Lexeme.first c cs with ⟨l, rest⟩
          rw [hf] at less stays
          dsimp only at less stays ⊢
          -- What stays on the line is read before the rest.
          have onLine (on : l.StaysOnLine)
              : Counted p.start (read ++ (l.marked ++ marked rest))
                  (Token.ofLexemes { p with reversed := l.chars.reverse ++ p.reversed }
                    (p.start + feeds read + linesIn l) (Lexeme.ofText rest)) := by
            obtain ⟨moves, lead⟩ := stays on
            rw [← List.append_assoc]
            refine ih _ less rest (h.append l.map_fst_marked lead) ?_ rfl
            rw [feeds_append, moves, Nat.add_assoc]
          -- After a line the text goes on with an empty one.
          have newLine (start : Nat) {cs' : List Char} (hl : cs'.length ≤ rest.length)
              : Counted start (marked cs')
                  (Token.ofLexemes { start } start (Lexeme.ofText cs')) :=
            ih _ (Nat.lt_of_le_of_lt hl less) cs' (hasRead_new start) rfl rfl
          cases l with
          | plain => exact onLine trivial
          | quoted => exact onLine trivial
          | block => exact onLine trivial
          | newline => exact finish h (newline (newLine _ le_rfl))
          | opening =>
              exact finish h (single (.opening _) (by simp [content]) rfl (by decide)
                (newLine _ le_rfl))
          | closing =>
              exact finish h (single (.closing _) (by simp [content]) rfl (by decide)
                (newLine _ le_rfl))
          | comment w =>
              obtain ⟨v, hv, rfl, ends⟩ := Lexeme.of_first_eq_comment hf
              have h' : HasRead { p with comment := commentText ('/' :: '/' :: v) } read :=
                ⟨h.chars, h.lead⟩
              cases rest with
              | nil =>
                  rw [marked_nil, Token.ofLexemes, Lexeme.ofText, Token.ofLexemes,
                    ← List.append_nil (Pending.finish _)]
                  exact finish h' (comment hv (by simp) .nil)
              | cons d rest =>
                  obtain rfl := ends d rfl
                  rw [marked_newline, Token.ofLexemes, Lexeme.ofText]
                  exact finish h' (comment hv (by simp) (newline (newLine _ (Nat.le_succ _))))

/-- The tokens of a text lie in it, counted from one. -/
theorem scan (s : String)
    : Counted 1 (marked s.toList) (Token.scan s) :=
  ofLexemes s.toList (hasRead_new 1) rfl

end Counted

end SchemaMarkup.Markup
