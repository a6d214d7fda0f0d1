import SchemaMarkup.Proofs.Markup.TokenSlices

/-! The line numbers of tokens. A token has the number of the line on which it begins, as long as
no string of one line before it goes on to the next line behind a backslash. Every line feed in such
a string is missed, so the tokens after it are numbered one line too low for each of them.
-/

namespace SchemaMarkup.Markup

open Text Token

/-- The number of the line on which a position of a text lies, counted from one. -/
def lineAt (cs : List Char) (i : Nat) : Nat :=
  1 + (cs.take i).count '\n'

/-- The number of line feeds before a position that stand in strings of one line. -/
def feedsInStrings (cs : List Char) (i : Nat) : Nat :=
  ((marked cs).take i).count ('\n', true)

/-- The line feeds of a text are those outside of strings of one line and those inside, by induction
on its characters.
-/
theorem count_feeds (ms : List (Char × Bool))
    : (ms.map Prod.fst).count '\n' = feeds ms + ms.count ('\n', true) := by
  induction ms with
  | nil => rfl
  | cons m ms ih =>
      obtain ⟨c, inString⟩ := m
      rw [feeds] at ih ⊢
      rw [List.map_cons, List.count_cons, List.count_cons, List.count_cons, ih]
      cases inString <;> by_cases hc : c = '\n' <;> simp [hc] <;> omega

theorem lineAt_eq (cs : List Char) (i : Nat)
    : lineAt cs i = 1 + feeds ((marked cs).take i) + feedsInStrings cs i := by
  have whole := count_feeds ((marked cs).take i)
  rw [List.map_take, map_fst_marked] at whole
  rw [lineAt, feedsInStrings, whole, Nat.add_assoc]

-----------------------------------------------------------------------------------------
-- Line feeds in strings of one line stand behind backslashes
-----------------------------------------------------------------------------------------

/-- Whether any part of a text that is read from its beginning, if it has a line feed in a string of
one line, has one behind a backslash.
-/
def Escaped (ms : List (Char × Bool)) : Prop :=
  ∀ read, read <+: ms → ('\n', true) ∈ read → ['\\', '\n'] <:+: read.map Prod.fst

namespace Escaped

variable {ms ms' : List (Char × Bool)}

theorem of_notMem (h : ('\n', true) ∉ ms)
    : Escaped ms :=
  fun _ hp feed => absurd (hp.mem feed) h

/-- What is read of two texts is read of the first one alone, or is the first and a part of the
second.
-/
theorem append (h : Escaped ms) (h' : Escaped ms')
    : Escaped (ms ++ ms') := by
  intro read hp feed
  obtain hr | ⟨read', rfl⟩ := List.prefix_or_prefix_of_prefix hp (List.prefix_append _ _)
  · exact h read hr feed
  · have hr := (List.prefix_append_right_inj _).mp hp
    rw [List.map_append]
    rcases List.mem_append.mp feed with here | later
    · exact (h ms List.prefix_rfl here).trans (List.prefix_append _ _).isInfix
    · exact (h' read' hr later).trans (List.suffix_append _ _).isInfix

theorem cons {m : Char × Bool} (apart : m ≠ ('\n', true)) (h : Escaped ms)
    : Escaped (m :: ms) := by
  have single : Escaped [m] := of_notMem (by simpa using Ne.symm apart)
  exact single.append h

/-- A backslash with a line feed behind it is read before the line feed is. -/
theorem pair (c : Char)
    : Escaped [('\\', true), (c, true)] := by
  intro read hp feed
  obtain rfl | ⟨read, rfl, hr⟩ := List.prefix_cons_iff.mp hp
  · cases feed
  obtain rfl | ⟨read, rfl, hr'⟩ := List.prefix_cons_iff.mp hr
  · simp at feed
  obtain rfl := List.prefix_nil.mp hr'
  obtain rfl : '\n' = c := by simpa using feed
  exact List.infix_rfl

/-- A string of one line is escaped, by induction on where it ends. -/
theorem spanQuoted (quote : Char) (cs : List Char)
    : Escaped ((Lexeme.spanQuoted quote cs).1.map (·, true)) := by
  fun_induction Lexeme.spanQuoted quote cs with
  | case1 => exact of_notMem List.not_mem_nil
  | case2 => exact of_notMem List.not_mem_nil
  | case3 c cs s rest hs ih =>
      rw [hs] at ih
      exact (pair c).append ih
  | case4 cs apart => exact of_notMem (by simpa using Ne.symm apart)
  | case5 c cs apart _ _ s rest hs ih =>
      rw [hs] at ih
      exact ih.cons (by simpa using apart)

/-- Every piece is escaped, since none but strings of one line has line feeds in one. -/
theorem first (c : Char) (cs : List Char)
    : Escaped (Lexeme.first c cs).1.marked := by
  fun_cases Lexeme.first c cs with
  | case6 c cs _ _ _ _ apart _ s rest hs =>
      have inside := spanQuoted c cs
      rw [hs] at inside
      exact inside.cons (by simpa using apart)
  | _ => exact of_notMem (by simp [Lexeme.marked])

/-- A text is escaped, by induction on its pieces. -/
theorem marked (cs : List Char)
    : Escaped (marked cs) := by
  induction cs using Lexeme.ofText.induct with
  | case1 =>
      rw [marked_nil]
      exact of_notMem List.not_mem_nil
  | case2 c cs ih =>
      rw [marked_cons]
      exact (first c cs).append ih

end Escaped

-----------------------------------------------------------------------------------------
-- The count of lines where a token begins
-----------------------------------------------------------------------------------------

section

variable {n : Nat} {ms w : List (Char × Bool)} {ts : List Token} {slices : List Slice}

/-- Whether a token has the number that the count of lines has reached where its slice begins, if
the text begins at the given number.
-/
def CountedAt (n : Nat) (ms : List (Char × Bool)) (t : Token) (s : Slice) : Prop :=
  t.line = n + feeds (ms.take s.start)

/-- Tokens keep their numbers when what comes before them has moved the count on. -/
theorem CountedAt.shift (h : List.Forall₂ (CountedAt (n + feeds w) ms) ts slices)
    : List.Forall₂ (CountedAt n (w ++ ms)) ts (slices.map (Slice.shift w.length)) := by
  rw [List.forall₂_map_right_iff]
  refine h.imp fun t s hs => hs.trans ?_
  rw [Slice.shift, Nat.add_comm s.start, List.take_length_add_append, feeds_append, Nat.add_assoc]

/-- Tokens that lie in a text as it is counted take up slices of it, each with the number that the
count has reached where its slice begins, by induction on how they lie.
-/
theorem Counted.exists_occupy (h : Counted n ms ts)
    : ∃ slices, Occupy (ms.map Prod.fst) ts slices
        ∧ List.Forall₂ (CountedAt n ms) ts slices := by
  induction h with
  | nil => exact ⟨[], .nil, .nil⟩
  | @blanks n w ms ts blank rest ih =>
      obtain ⟨slices, ho, hc⟩ := ih
      have gap := ho.gap (w := w.map Prod.fst) (.inl (List.forall_mem_map.mpr blank))
      rw [List.length_map, ← List.map_append] at gap
      exact ⟨_, gap, CountedAt.shift hc⟩
  | @comment n w ms ts line ends rest ih =>
      obtain ⟨slices, ho, hc⟩ := ih
      have gap := ho.gap (.inr (Slice.isComment_whole line ends))
      have still : feeds (('/' :: '/' :: w).map (·, false)) = 0 := by
        rw [feeds_outside]
        simpa [List.count_eq_zero] using line
      have shifted :=
        CountedAt.shift (n := n) (w := ('/' :: '/' :: w).map (·, false)) (by rwa [still])
      refine ⟨_, ?_, shifted⟩
      simpa [Function.comp_def] using gap
  | @token n w ms ts t reads nonempty trimmed number rest ih =>
      obtain ⟨slices, ho, hc⟩ := ih
      have taken := ho.cons t nonempty trimmed
      rw [← reads, ← List.map_append, List.length_map] at taken
      refine ⟨_, taken, .cons ?_ (CountedAt.shift hc)⟩
      simpa [CountedAt, feeds] using number

end

-----------------------------------------------------------------------------------------
-- The numbers of tokens
-----------------------------------------------------------------------------------------

/-- What the number of a token with the given slice says of the line on which the token begins: it
is that line's number less the line feeds in strings of one line before. So it is right where no
line feed before stands behind a backslash.
-/
structure Numbered (cs : List Char) (t : Token) (s : Slice) : Prop where
  short : t.line + feedsInStrings cs s.start = lineAt cs s.start
  right : ¬ ['\\', '\n'] <:+: cs.take s.start → t.line = lineAt cs s.start

theorem Numbered.of_countedAt {cs : List Char} {t : Token} {s : Slice}
    (h : CountedAt 1 (marked cs) t s)
    : Numbered cs t s where
  short := by
    rw [h, lineAt_eq]
  right unescaped := by
    have none : feedsInStrings cs s.start = 0 := by
      refine List.count_eq_zero.mpr fun feed => unescaped ?_
      have escaped := Escaped.marked cs _ (List.take_prefix _ _) feed
      rwa [List.map_take, map_fst_marked] at escaped
    rw [h, lineAt_eq, none, Nat.add_zero]

/-- The tokens of every text take up slices of it, each with the number of the line on which its
slice begins, less one for each line feed before it in a string of one line.
-/
theorem tokens_numbered (text : String)
    : ∃ slices, Occupy text.toList (Token.scan text) slices
        ∧ List.Forall₂ (Numbered text.toList) (Token.scan text) slices := by
  obtain ⟨slices, taken, counted⟩ := (Counted.scan text).exists_occupy
  rw [map_fst_marked] at taken
  exact ⟨slices, taken, counted.imp fun _ _ => Numbered.of_countedAt⟩

/-- A slice begins at its first character. -/
theorem Slice.getElem?_start {s : Slice} {cs w : List Char} {c : Char} (h : s.chars cs = c :: w)
    : cs[s.start]? = some c := by
  have first := congrArg (·[0]?) h
  have inside : 0 < s.stop - s.start ∧ cs[s.start]? = some c := by
    simpa [chars, List.extract_eq_take_drop, List.getElem?_take] using first
  exact inside.2

/-- A table with a note that goes on to the next line behind a backslash. -/
def brokenNoteText : String :=
  "Table t \x7b\n  Note: \"a\\\nb\"\n\x7d\n"

/-- The table ends on the fourth line of its text, the third by the number of the token that ends
it, wherever the tokens are taken to stand.
-/
theorem brokenNote_numbered_short
    : ¬ ∃ slices, Occupy brokenNoteText.toList (Token.scan brokenNoteText) slices
        ∧ List.Forall₂ (fun t s => t.line = lineAt brokenNoteText.toList s.start)
            (Token.scan brokenNoteText) slices := by
  rintro ⟨slices, taken, right⟩
  have tokens : Token.scan brokenNoteText
      = [.text "Table t" none 1, .opening 1, .text "Note: \"a\\\nb\"" none 2, .closing 3] := by
    decide +kernel
  have ends : ∀ i < brokenNoteText.toList.length,
      brokenNoteText.toList[i]? = some '\x7d' → lineAt brokenNoteText.toList i = 4 := by
    decide +kernel
  have contents := taken.contents
  rw [tokens] at right contents
  obtain _ | ⟨-, _ | ⟨-, _ | ⟨-, _ | ⟨number, -⟩⟩⟩⟩ := right
  obtain _ | ⟨-, _ | ⟨-, _ | ⟨-, _ | ⟨content, -⟩⟩⟩⟩ := contents
  have start := Slice.getElem?_start content
  have fourth := ends _ (List.getElem?_eq_some_iff.mp start).1 start
  rw [fourth] at number
  cases number

end SchemaMarkup.Markup
