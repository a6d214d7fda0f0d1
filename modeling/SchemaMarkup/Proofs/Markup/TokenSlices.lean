import Mathlib.Data.List.Forall2
import SchemaMarkup.Proofs.Markup.CountedTokens

/-! Where tokens lie in a text. They take up slices of it one after the other, each as long as the
token, and what lies between them is white space or a comment that runs to the end of its line. So
nothing that a text says gets lost on the way to its tokens, and nothing is said twice.
-/

namespace SchemaMarkup.Markup

open Text Token

/-- How tokens lie in a text: in order, with white space and whole comments between them. -/
inductive Laid : List Char → List Token → Prop
  | nil
    : Laid [] []
  | blank {c : Char} {cs : List Char} {ts : List Token} (blank : isBlank c = true)
    (rest : Laid cs ts)
    : Laid (c :: cs) ts
  | comment {w cs : List Char} {ts : List Token} (line : '\n' ∉ w)
    (ends : ∀ c ∈ cs.head?, c = '\n') (rest : Laid cs ts)
    : Laid ('/' :: '/' :: w ++ cs) ts
  | token {cs : List Char} {ts : List Token} (t : Token) (nonempty : t.content ≠ "")
    (trimmed : IsTrimmed t.content.toList) (rest : Laid cs ts)
    : Laid (t.content.toList ++ cs) (t :: ts)

namespace Laid

variable {bs cs : List Char} {ts : List Token}

/-- White space may come before anything, by induction. -/
theorem blanks (h : ∀ c ∈ bs, isBlank c = true) (rest : Laid cs ts)
    : Laid (bs ++ cs) ts := by
  induction bs with
  | nil => exact rest
  | cons b bs ih =>
      exact .blank (h b List.mem_cons_self) (ih fun c hc => h c (List.mem_cons_of_mem b hc))

/-- Tokens lie in a text however its lines are counted, by induction on how they lie. -/
theorem of_counted {n : Nat} {ms : List (Char × Bool)} (h : Counted n ms ts)
    : Laid (ms.map Prod.fst) ts := by
  induction h with
  | nil => exact .nil
  | blanks blank _ ih =>
      rw [List.map_append]
      exact Laid.blanks (List.forall_mem_map.mpr blank) ih
  | @comment n w ms ts line ends _ ih =>
      have plain : (('/' :: '/' :: w).map fun c => (c, false)).map Prod.fst = '/' :: '/' :: w := by
        simp [Function.comp_def]
      rw [List.map_append, plain]
      exact .comment line ends ih
  | token t reads nonempty trimmed _ _ ih =>
      rw [List.map_append, reads]
      exact .token t nonempty trimmed ih

/-- The tokens of a text lie in it. -/
theorem scan (s : String)
    : Laid s.toList (Token.scan s) := by
  have laid := of_counted (Counted.scan s)
  rwa [map_fst_marked] at laid

end Laid

-----------------------------------------------------------------------------------------
-- Tokens by their positions
-----------------------------------------------------------------------------------------

/-- A part of a text, from one position up to another. -/
structure Slice where
  start : Nat
  stop : Nat

namespace Slice

/-- Whether a position lies in a slice. -/
def Holds (s : Slice) (i : Nat) : Prop :=
  s.start ≤ i ∧ i < s.stop

/-- Whether a slice ends where another one begins, or before. -/
def Before (s s' : Slice) : Prop :=
  s.stop ≤ s'.start

/-- The characters of a text that a slice takes up. -/
def chars (s : Slice) (cs : List Char) : List Char :=
  cs.extract s.start s.stop

/-- Whether a slice is a comment: two slashes and all that follows them on the line. -/
structure IsComment (s : Slice) (cs : List Char) : Prop where
  inside : s.stop ≤ cs.length
  slashes : ['/', '/'] <+: s.chars cs
  line : '\n' ∉ s.chars cs
  ends : ∀ c, cs[s.stop]? = some c → c = '\n'

/-- The slice further on by some characters. -/
def shift (n : Nat) (s : Slice) : Slice :=
  ⟨s.start + n, s.stop + n⟩

theorem chars_shift (s : Slice) (w cs : List Char)
    : (s.shift w.length).chars (w ++ cs) = s.chars cs := by
  have hdrop : (w ++ cs).drop (s.start + w.length) = cs.drop s.start := by
    rw [Nat.add_comm, ← List.drop_drop, List.drop_left]
  simp only [chars, shift, List.extract_eq_take_drop, hdrop, Nat.add_sub_add_right]

theorem chars_whole (w cs : List Char)
    : (Slice.mk 0 w.length).chars (w ++ cs) = w := by
  simp [chars]

theorem IsComment.shift {s : Slice} {cs : List Char} (h : s.IsComment cs) (w : List Char)
    : (s.shift w.length).IsComment (w ++ cs) where
  inside := by
    rw [List.length_append, Nat.add_comm]
    exact Nat.add_le_add_right h.inside _
  slashes := by rw [chars_shift]; exact h.slashes
  line := by rw [chars_shift]; exact h.line
  ends := by
    intro c hc
    rw [Slice.shift, List.getElem?_append_right (Nat.le_add_left _ _), Nat.add_sub_cancel] at hc
    exact h.ends c hc

/-- Two slashes and what follows them up to the end of the line are a comment. -/
theorem isComment_whole {w cs : List Char} (line : '\n' ∉ w) (ends : ∀ c ∈ cs.head?, c = '\n')
    : (Slice.mk 0 ('/' :: '/' :: w).length).IsComment ('/' :: '/' :: w ++ cs) where
  inside := by simp
  slashes := by
    rw [chars_whole ('/' :: '/' :: w)]
    exact ⟨w, rfl⟩
  line := by
    rw [chars_whole ('/' :: '/' :: w)]
    simpa using line
  ends := by
    intro c hc
    rw [List.getElem?_append_right le_rfl, Nat.sub_self, ← List.head?_eq_getElem?] at hc
    exact ends c hc

end Slice

/-- Whether a character of a text is white space or stands in a comment between slices. -/
def Skipped (cs : List Char) (slices : List Slice) (i : Nat) (c : Char) : Prop :=
  isBlank c = true
    ∨ ∃ k : Slice, k.Holds i ∧ k.IsComment cs ∧ ∀ s ∈ slices, s.Before k ∨ k.Before s

/-- Whether tokens take up the given slices of a text: each slice is as its token says, a slice
begins only after the one before it has ended, and what lies in none of them is skipped.
-/
structure Occupy (cs : List Char) (ts : List Token) (slices : List Slice) : Prop where
  contents : List.Forall₂ (fun t s => s.chars cs = t.content.toList) ts slices
  ordered : slices.Pairwise Slice.Before
  proper : ∀ s ∈ slices, s.start < s.stop ∧ s.stop ≤ cs.length
  visible : ∀ t ∈ ts, t.content ≠ "" ∧ IsTrimmed t.content.toList
  skipped : ∀ i c, cs[i]? = some c → (∀ s ∈ slices, ¬ s.Holds i) → Skipped cs slices i c

section

variable {cs w : List Char} {ts : List Token} {slices : List Slice} {i : Nat} {c : Char}

theorem Skipped.of_cons {s : Slice} (h : Skipped cs (s :: slices) i c)
    : Skipped cs slices i c := by
  rcases h with hb | ⟨k, hi, hk, apart⟩
  · exact .inl hb
  · exact .inr ⟨k, hi, hk, fun s hs => apart s (List.mem_cons_of_mem _ hs)⟩

/-- What is skipped of a text is skipped when other characters come before it. -/
theorem Skipped.shift (h : Skipped cs slices i c) (w : List Char)
    : Skipped (w ++ cs) (⟨0, w.length⟩ :: slices.map (Slice.shift w.length)) (i + w.length) c := by
  rcases h with hb | ⟨k, hi, hk, apart⟩
  · exact .inl hb
  · refine .inr ⟨k.shift w.length, ?_, hk.shift w, ?_⟩
    · exact ⟨Nat.add_le_add_right hi.1 _, Nat.add_lt_add_right hi.2 _⟩
    · rw [List.forall_mem_cons, List.forall_mem_map]
      refine ⟨.inl (Nat.le_add_left _ _), fun s hs => ?_⟩
      exact (apart s hs).imp (Nat.add_le_add_right · _) (Nat.add_le_add_right · _)

namespace Occupy

theorem nil
    : Occupy [] [] [] where
  contents := .nil
  ordered := .nil
  proper _ hs := absurd hs List.not_mem_nil
  visible _ ht := absurd ht List.not_mem_nil
  skipped _ _ hc := nomatch hc

/-- The slices of tokens are found further on when other characters come before them. -/
theorem contents_shift (h : Occupy cs ts slices) (w : List Char)
    : List.Forall₂ (fun t s => s.chars (w ++ cs) = t.content.toList) ts
        (slices.map (Slice.shift w.length)) := by
  rw [List.forall₂_map_right_iff]
  exact h.contents.imp fun t s hs => (s.chars_shift w cs).trans hs

theorem ordered_shift (h : Occupy cs ts slices) (n : Nat)
    : (slices.map (Slice.shift n)).Pairwise Slice.Before :=
  List.pairwise_map.mpr (h.ordered.imp fun hb => Nat.add_le_add_right hb n)

theorem proper_shift (h : Occupy cs ts slices) (w : List Char)
    : ∀ s ∈ slices.map (Slice.shift w.length), s.start < s.stop ∧ s.stop ≤ (w ++ cs).length := by
  rw [List.forall_mem_map]
  intro s hs
  obtain ⟨hp, hl⟩ := h.proper s hs
  rw [List.length_append, Nat.add_comm w.length]
  exact ⟨Nat.add_lt_add_right hp _, Nat.add_le_add_right hl _⟩

/-- What lies in no slice is still skipped when other characters come before the text. -/
theorem skipped_shift (h : Occupy cs ts slices) (hi : w.length ≤ i) (hc : (w ++ cs)[i]? = some c)
    (free : ∀ s ∈ slices.map (Slice.shift w.length), ¬ s.Holds i)
    : Skipped (w ++ cs) (⟨0, w.length⟩ :: slices.map (Slice.shift w.length)) i c := by
  rw [List.getElem?_append_right hi] at hc
  have hs := (h.skipped _ c hc ?_).shift w
  · rwa [Nat.sub_add_cancel hi] at hs
  · intro s hm hs
    refine free _ (List.mem_map_of_mem hm) ⟨?_, ?_⟩
    · exact (Nat.le_sub_iff_add_le hi).mp hs.1
    · exact (Nat.sub_lt_iff_lt_add hi).mp hs.2

/-- Characters that are skipped may come before the slices. -/
theorem gap (h : Occupy cs ts slices)
    (blank : (∀ c ∈ w, isBlank c = true) ∨ (Slice.mk 0 w.length).IsComment (w ++ cs))
    : Occupy (w ++ cs) ts (slices.map (Slice.shift w.length)) where
  contents := h.contents_shift w
  ordered := h.ordered_shift w.length
  proper := h.proper_shift w
  visible := h.visible
  skipped i c hc free := by
    by_cases hi : i < w.length
    · rw [List.getElem?_append_left hi] at hc
      rcases blank with hb | hk
      · exact .inl (hb c (List.mem_of_getElem? hc))
      · refine .inr ⟨_, ⟨Nat.zero_le i, hi⟩, hk, ?_⟩
        rw [List.forall_mem_map]
        exact fun s _ => .inr (Nat.le_add_left _ _)
    · exact (h.skipped_shift (Nat.le_of_not_lt hi) hc free).of_cons

/-- A token takes up the slice before those of the tokens after it. -/
theorem cons (h : Occupy cs ts slices) (t : Token) (nonempty : t.content ≠ "")
    (trimmed : IsTrimmed t.content.toList)
    : Occupy (t.content.toList ++ cs) (t :: ts)
        (⟨0, t.content.toList.length⟩ :: slices.map (Slice.shift t.content.toList.length)) where
  contents := .cons (Slice.chars_whole _ cs) (h.contents_shift _)
  ordered := by
    refine .cons ?_ (h.ordered_shift _)
    rw [List.forall_mem_map]
    exact fun s _ => Nat.le_add_left _ _
  proper := by
    refine List.forall_mem_cons.mpr ⟨⟨?_, ?_⟩, h.proper_shift _⟩
    · exact List.length_pos_iff.mpr fun he => nonempty (String.toList_eq_nil_iff.mp he)
    · rw [List.length_append]
      exact Nat.le_add_right _ _
  visible := List.forall_mem_cons.mpr ⟨⟨nonempty, trimmed⟩, h.visible⟩
  skipped i c hc free := by
    have apart := List.forall_mem_cons.mp free
    refine h.skipped_shift (Nat.le_of_not_lt fun hi => ?_) hc apart.2
    exact apart.1 ⟨Nat.zero_le i, hi⟩

end Occupy

/-- Tokens that lie in a text take up slices of it, by induction on how they lie. -/
theorem Laid.exists_occupy (h : Laid cs ts)
    : ∃ slices, Occupy cs ts slices := by
  induction h with
  | nil => exact ⟨[], .nil⟩
  | @blank c cs ts hb rest ih =>
      obtain ⟨slices, ho⟩ := ih
      exact ⟨_, ho.gap (w := [c]) (.inl (by simpa using hb))⟩
  | @comment w cs ts line ends rest ih =>
      obtain ⟨slices, ho⟩ := ih
      exact ⟨_, ho.gap (.inr (Slice.isComment_whole line ends))⟩
  | token t nonempty trimmed rest ih =>
      obtain ⟨slices, ho⟩ := ih
      exact ⟨_, ho.cons t nonempty trimmed⟩

end

/-- The tokens of every text take up slices of it in order, none of which overlap. Each is what its
token says, without white space at its ends, and every character outside of them is white space or
stands in a comment that goes on to the end of its line.
-/
theorem tokens_occupy_slices (text : String)
    : ∃ slices, Occupy text.toList (Token.scan text) slices :=
  (Laid.scan text).exists_occupy

end SchemaMarkup.Markup
