import SchemaMarkup.Markup.Repeats
import SchemaMarkup.Proofs.Markup.Notes
import SchemaMarkup.Proofs.Markup.Quotes

/-! Logical lines. A line without triple quotes is a logical line of its own, so that a text made
of such lines is taken apart into them and put together from them again. A text between triple
quotes is one with what stands before and after it. Some of the logical lines of any text, put
together, are taken apart into just these.
-/

namespace SchemaMarkup.Markup

/-- Whether a text, ended by a line feed, is one logical line whatever follows. -/
def IsLogical (line : List Char) : Prop :=
  ∀ rest, logicalLines (line ++ '\n' :: rest) = line :: logicalLines rest

/-- A text without triple quotes holds an even number of them. -/
theorem oddTripleQuotes_of_tripleFree {cs : List Char} (h : TripleFree cs)
    : oddTripleQuotes cs = false := by
  fun_induction oddTripleQuotes cs with
  | case1 cs =>
      have hp : tripleQuote <+: '\'' :: '\'' :: '\'' :: cs := ⟨cs, rfl⟩
      exact absurd hp.isInfix h
  | case2 c cs _ ih => exact ih h.tail
  | case3 => rfl

/-- Whether the lines of a text begin a logical line and do not end it. -/
def IsUnfinished (text : List Char) : Prop :=
  ∀ lines, logicalLinesAfter none (text.splitOn '\n' ++ lines)
    = logicalLinesAfter (some text) lines

/-- Whether the lines of a text make up one logical line. -/
def IsFinished (text : List Char) : Prop :=
  ∀ lines, logicalLinesAfter none (text.splitOn '\n' ++ lines)
    = text :: logicalLinesAfter none lines

section

variable {text line : List Char}

theorem IsFinished.isLogical (h : IsFinished text)
    : IsLogical text := by
  intro rest
  rw [logicalLines, List.splitOn_append_cons_self, h]
  rfl

/-- A finished line is a logical line by itself. -/
theorem IsFinished.logicalLines_eq (h : IsFinished text)
    : logicalLines text = [text] := by
  have ht := h []
  rwa [List.append_nil] at ht

/-- An unfinished line ends with the text. -/
theorem IsUnfinished.logicalLines_eq (h : IsUnfinished text)
    : logicalLines text = [text] := by
  have ht := h []
  rwa [List.append_nil] at ht

theorem isUnfinished_of_odd (one : '\n' ∉ line) (odd : oddTripleQuotes line = true)
    : IsUnfinished line := by
  intro lines
  rw [List.splitOn_eq_singleton one, List.singleton_append, logicalLinesAfter, if_pos odd]

theorem isFinished_of_even (one : '\n' ∉ line) (even : oddTripleQuotes line = false)
    : IsFinished line := by
  intro lines
  rw [List.splitOn_eq_singleton one, List.singleton_append, logicalLinesAfter, if_neg]
  rw [even]
  exact Bool.false_ne_true

/-- A line with an even number of triple quotes does not finish another one. -/
theorem IsUnfinished.append (h : IsUnfinished text) (one : '\n' ∉ line)
    (even : oddTripleQuotes line = false)
    : IsUnfinished (text ++ '\n' :: line) := by
  intro lines
  rw [List.splitOn_append_cons_self, List.splitOn_eq_singleton one, List.append_assoc, h,
    List.singleton_append, logicalLinesAfter, if_neg]
  rw [even]
  exact Bool.false_ne_true

theorem IsUnfinished.finish (h : IsUnfinished text) (one : '\n' ∉ line)
    (odd : oddTripleQuotes line = true)
    : IsFinished (text ++ '\n' :: line) := by
  intro lines
  rw [List.splitOn_append_cons_self, List.splitOn_eq_singleton one, List.append_assoc, h,
    List.singleton_append, logicalLinesAfter, if_pos odd]

theorem isLogical_of_tripleFree (one : '\n' ∉ line) (free : TripleFree line)
    : IsLogical line :=
  (isFinished_of_even one (oddTripleQuotes_of_tripleFree free)).isLogical

end

/-- Lines each ended by a line feed are taken apart again; nothing stands after the last line
feed, by induction.
-/
theorem logicalLines_flatMap {ls : List (List Char)} (h : ∀ l ∈ ls, IsLogical l)
    : logicalLines (ls.flatMap (· ++ ['\n'])) = ls ++ [[]] := by
  induction ls with
  | nil => rfl
  | cons l ls ih =>
      rw [List.flatMap_cons, List.append_assoc, List.singleton_append, h l List.mem_cons_self,
        ih fun k hk => h k (List.mem_cons_of_mem l hk), List.cons_append]

/-- Lines before an empty last one are each ended by a line feed, by induction. -/
theorem intercalate_concat_nil (ls : List (List Char))
    : ['\n'].intercalate (ls ++ [[]]) = ls.flatMap (· ++ ['\n']) := by
  induction ls with
  | nil => rfl
  | cons l ls ih =>
      rw [List.cons_append, List.intercalate_cons_of_ne_nil (by simp), ih, List.flatMap_cons]

/-- Joining unfinished lines moves no character, by induction on the lines. -/
theorem flatMap_logicalLinesAfter (pending : Option (List Char)) (lines : List (List Char))
    : (logicalLinesAfter pending lines).flatMap (· ++ ['\n'])
      = (pending.toList ++ lines).flatMap (· ++ ['\n']) := by
  fun_induction logicalLinesAfter pending lines with
  | case1 pending => rw [List.append_nil]
  | case2 line lines _ ih => exact ih
  | case3 line lines _ ih => rw [List.flatMap_cons, ih]; rfl
  | case4 pending line lines joined _ ih => rw [List.flatMap_cons, ih]; simp [joined]
  | case5 pending line lines joined _ ih => rw [ih]; simp [joined]

/-- Lines that are each ended by a line feed are joined by line feeds, but for the last one. -/
theorem flatMap_eq_intercalate {ls : List (List Char)} (h : ls ≠ [])
    : ls.flatMap (· ++ ['\n']) = ['\n'].intercalate ls ++ ['\n'] := by
  induction ls with
  | nil => exact absurd rfl h
  | cons l ls ih =>
      cases ls with
      | nil => simp
      | cons l' ls =>
          rw [List.flatMap_cons, ih (List.cons_ne_nil l' ls),
            List.intercalate_cons_of_ne_nil (List.cons_ne_nil l' ls)]
          simp

/-- The logical lines of a text are its lines, each ended by a line feed. -/
theorem flatMap_logicalLines (text : List Char)
    : (logicalLines text).flatMap (· ++ ['\n']) = text ++ ['\n'] := by
  rw [logicalLines, flatMap_logicalLinesAfter, Option.toList_none, List.nil_append,
    flatMap_eq_intercalate (List.splitOn_ne_nil '\n' text), List.intercalate_splitOn]

/-- Even the empty text has a line. -/
theorem logicalLines_ne_nil (text : List Char)
    : logicalLines text ≠ [] := by
  intro he
  have hjoin := flatMap_logicalLines text
  rw [he] at hjoin
  simp at hjoin

/-- The logical lines of a text, joined by line feeds, are the text. -/
theorem intercalate_logicalLines (text : List Char)
    : ['\n'].intercalate (logicalLines text) = text := by
  have hjoin := flatMap_logicalLines text
  rw [flatMap_eq_intercalate (logicalLines_ne_nil text)] at hjoin
  exact List.append_cancel_right hjoin

-----------------------------------------------------------------------------------------
-- Triple quotes around a text of several lines
-----------------------------------------------------------------------------------------

/-- A text after a character that is no single quote holds triple quotes of its own. -/
theorem oddTripleQuotes_append_cons {c : Char} (hc : c ≠ '\'') (as bs : List Char)
    : oddTripleQuotes (as ++ c :: bs) = (oddTripleQuotes as ^^ oddTripleQuotes bs) := by
  fun_induction oddTripleQuotes as with
  | case1 as ih =>
      rw [List.cons_append, List.cons_append, List.cons_append, oddTripleQuotes, ih, Bool.not_xor]
  | case2 d as hne ih =>
      rw [List.cons_append, oddTripleQuotes, ih]
      rintro rest rfl hrest
      -- The character stands among the first three, or the text began with triple quotes before.
      rcases as with _ | ⟨a, _ | ⟨b, as⟩⟩
      · exact hc (List.cons.inj hrest).1
      · exact hc (List.cons.inj (List.cons.inj hrest).2).1
      · obtain ⟨ha, hrest⟩ := List.cons.inj hrest
        obtain ⟨hb, _⟩ := List.cons.inj hrest
        exact hne as rfl (by rw [ha, hb])
  | case3 =>
      rw [List.nil_append, oddTripleQuotes, Bool.false_xor]
      exact fun rest he _ => hc he

/-- Fewer than three single quotes are no triple quotes. -/
theorem tripleFree_of_count_lt {cs : List Char} (h : cs.count '\'' < 3)
    : TripleFree cs := by
  intro hi
  have hcount := hi.sublist.count_le '\''
  rw [show tripleQuote.count '\'' = 3 from rfl] at hcount
  omega

/-- What stands between triple quotes holds none, and the closing ones are one more. Single quotes
before them join them, and then as many are left over. By induction.
-/
theorem oddTripleQuotes_closed {cs ds : List Char} (h : TripleFree cs) (hd : '\'' ∉ ds)
    : oddTripleQuotes (cs ++ (tripleQuote ++ ds)) = true := by
  have left (qs : List Char) (hq : qs.length < 3) : oddTripleQuotes (qs ++ ds) = false := by
    apply oddTripleQuotes_of_tripleFree
    apply tripleFree_of_count_lt
    rw [List.count_append, List.count_eq_zero_of_not_mem hd]
    exact Nat.lt_of_le_of_lt List.count_le_length hq
  induction cs with
  | nil => exact congrArg (! ·) (left [] (by decide))
  | cons c cs ih =>
      rcases h.cases ds with he | he | he | ⟨d, es, he, hes, hne⟩
      · cases he
      · rw [he]
        exact congrArg (! ·) (left ['\''] (by decide))
      · rw [he]
        exact congrArg (! ·) (left ['\'', '\''] (by decide))
      · obtain ⟨rfl, rfl⟩ := List.cons.inj he
        rw [List.cons_append, oddTripleQuotes, ih hes]
        exact fun rest hc hr => hne rest (by rw [hc, hr])

/-- The first of several lines, and the others, hold no triple quotes if all of them hold none. -/
theorem TripleFree.exists_line {cs : List Char} (h : TripleFree cs) (hc : '\n' ∈ cs)
    : ∃ line rest, cs = line ++ '\n' :: rest ∧ '\n' ∉ line ∧ TripleFree line ∧ TripleFree rest := by
  obtain ⟨line, rest, rfl, hline⟩ := List.eq_append_cons_of_mem hc
  refine ⟨line, rest, rfl, hline, fun hi => h (hi.trans ?_), fun hi => h (hi.trans ?_)⟩
  · exact (List.prefix_append line _).isInfix
  · exact ((List.suffix_cons '\n' rest).trans (List.suffix_append line _)).isInfix

/-- An unfinished line ends at the next triple quotes, by induction on the lines before them. -/
theorem IsUnfinished.closed {text cs ds : List Char} (h : IsUnfinished text) (free : TripleFree cs)
    (hq : '\'' ∉ ds) (hl : '\n' ∉ ds)
    : IsFinished (text ++ '\n' :: (cs ++ (tripleQuote ++ ds))) := by
  by_cases hc : '\n' ∈ cs
  · obtain ⟨line, rest, he, hline, hfree, hrest⟩ := free.exists_line hc
    have hlen : rest.length < cs.length := by
      rw [he, List.length_append, List.length_cons]
      omega
    have hnext := (h.append hline (oddTripleQuotes_of_tripleFree hfree)).closed hrest hq hl
    simpa [he] using hnext
  · refine h.finish ?_ (oddTripleQuotes_closed free hq)
    simp [tripleQuote, hc, hl]
termination_by cs.length

/-- Text between triple quotes, of whatever lines, makes one line with what stands before and after
it.
-/
theorem isFinished_block {before cs ds : List Char} (one : '\n' ∉ before)
    (even : oddTripleQuotes before = false) (free : TripleFree cs) (hq : '\'' ∉ ds)
    (hl : '\n' ∉ ds)
    : IsFinished (before ++ ' ' :: (Literal.block cs ++ ds)) := by
  have hstart (es : List Char)
      : oddTripleQuotes (before ++ ' ' :: (tripleQuote ++ es)) = !oddTripleQuotes es := by
    rw [oddTripleQuotes_append_cons (by decide), even, Bool.false_xor]
    rfl
  rw [Literal.block, List.append_assoc, List.append_assoc]
  by_cases hc : '\n' ∈ cs
  · obtain ⟨line, rest, rfl, hline, hfree, hrest⟩ := free.exists_line hc
    have hodd : oddTripleQuotes (before ++ ' ' :: (tripleQuote ++ line)) = true := by
      rw [hstart, oddTripleQuotes_of_tripleFree hfree]
      rfl
    have hfirst := isUnfinished_of_odd (by simp [tripleQuote, one, hline]) hodd
    simpa using hfirst.closed hrest hq hl
  · refine isFinished_of_even (by simp [tripleQuote, one, hc, hl]) ?_
    rw [hstart, oddTripleQuotes_closed free hq]
    rfl

-----------------------------------------------------------------------------------------
-- Lines that are left when others are dropped
-----------------------------------------------------------------------------------------

/-- Whether lines are the logical lines of a text. All of them are finished, but the last one
need not be.
-/
structure AreLogical (ls : List (List Char)) : Prop where
  logical : ls.Pairwise fun l _ => IsLogical l
  single : ∀ l ∈ ls, logicalLines l = [l]

theorem AreLogical.sublist {ls ms : List (List Char)} (h : AreLogical ls) (hs : ms.Sublist ls)
    : AreLogical ms :=
  ⟨h.logical.sublist hs, fun l hl => h.single l (hs.subset hl)⟩

/-- Lines with their logical lines, of which the first may have begun before, by induction on
the lines.
-/
theorem areLogical_logicalLinesAfter {pending : Option (List Char)} {lines : List (List Char)}
    (begun : ∀ text ∈ pending, IsUnfinished text) (one : ∀ line ∈ lines, '\n' ∉ line)
    : AreLogical (logicalLinesAfter pending lines) := by
  have finished {text : List Char} {ls : List (List Char)} (ht : IsFinished text)
      (h : AreLogical ls)
      : AreLogical (text :: ls) :=
    ⟨List.pairwise_cons.mpr ⟨fun _ _ => ht.isLogical, h.logical⟩,
      List.forall_mem_cons.mpr ⟨ht.logicalLines_eq, h.single⟩⟩
  fun_induction logicalLinesAfter pending lines with
  | case1 pending =>
      refine ⟨?_, fun l hl => (begun l (Option.mem_toList.mp hl)).logicalLines_eq⟩
      cases pending <;> simp
  | case2 line lines odd ih =>
      obtain ⟨hl, hls⟩ := List.forall_mem_cons.mp one
      exact ih (fun text ht => Option.some.inj ht ▸ isUnfinished_of_odd hl odd) hls
  | case3 line lines even ih =>
      obtain ⟨hl, hls⟩ := List.forall_mem_cons.mp one
      exact finished (isFinished_of_even hl (Bool.not_eq_true _ ▸ even)) (ih nofun hls)
  | case4 text line lines joined odd ih =>
      obtain ⟨hl, hls⟩ := List.forall_mem_cons.mp one
      exact finished ((begun text rfl).finish hl odd) (ih nofun hls)
  | case5 text line lines joined even ih =>
      obtain ⟨hl, hls⟩ := List.forall_mem_cons.mp one
      have hjoined := (begun text rfl).append hl (Bool.not_eq_true _ ▸ even)
      exact ih (fun text ht => Option.some.inj ht ▸ hjoined) hls

/-- The lines of a text hold no line feed, by induction. -/
theorem newline_notMem_splitOn (text : List Char)
    : ∀ line ∈ text.splitOn '\n', '\n' ∉ line := by
  induction text with
  | nil => simp
  | cons c text ih =>
      obtain ⟨l, ls, hs⟩ := List.exists_cons_of_ne_nil (List.splitOn_ne_nil '\n' text)
      rw [hs, List.forall_mem_cons] at ih
      rw [List.splitOn_cons_eq_if_modifyHead, hs]
      split
      · simpa using ih
      · rename_i hc
        rw [beq_iff_eq] at hc
        rw [List.modifyHead_cons, List.forall_mem_cons, List.mem_cons, not_or]
        exact ⟨⟨Ne.symm hc, ih.1⟩, ih.2⟩

/-- The logical lines of a text are what they are called. -/
theorem areLogical_logicalLines (text : List Char)
    : AreLogical (logicalLines text) :=
  areLogical_logicalLinesAfter nofun (newline_notMem_splitOn text)

/-- Logical lines put together are taken apart again, by induction. -/
theorem AreLogical.logicalLines_intercalate {ls : List (List Char)} (h : AreLogical ls)
    (hne : ls ≠ [])
    : logicalLines (['\n'].intercalate ls) = ls := by
  induction ls with
  | nil => exact absurd rfl hne
  | cons l ls ih =>
      cases ls with
      | nil => simpa using h.single l List.mem_cons_self
      | cons m ls =>
          have hl := List.rel_of_pairwise_cons h.logical List.mem_cons_self
          have hls := h.sublist (List.sublist_cons_self l (m :: ls))
          rw [List.intercalate_cons_of_ne_nil (List.cons_ne_nil m ls), List.append_assoc,
            List.singleton_append, hl, ih hls (List.cons_ne_nil m ls)]

end SchemaMarkup.Markup
