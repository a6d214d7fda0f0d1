import SchemaMarkup.Proofs.Markup.Constraints

/-! Cutting what was cut. Whatever a text looks like, also if it leaves a string or a block open or
ends with a backslash, its parts come back when they are joined with commas and cut again: each part
is read in one piece, white space around it does not matter for that, and all parts but the last one
close the strings that they open.
-/

namespace SchemaMarkup.Markup

open Text

section

variable {q q' : Quoting} {c : Char} {cs ds rest : List Char}

-----------------------------------------------------------------------------------------
-- Reading up to the first cut
-----------------------------------------------------------------------------------------

/-- How a text is read up to where it is first cut. -/
inductive FirstPart (q : Quoting) : List Char → Prop
  | whole {cs : List Char} {q' : Quoting} (proper : Proper q') (uncut : Uncut q cs q')
    : FirstPart q cs
  | before {p : List Char} (uncut : Uncut q p .plain) (rest : List Char)
    : FirstPart q (p ++ ',' :: rest)

theorem FirstPart.prepend {w : List Char} (h : FirstPart q' cs)
    (step : ∀ begun p rest, p <+: cs → Seam rest →
      partsAfter isComma begun q (w ++ (p ++ rest))
        = partsAfter isComma (w.reverse ++ begun) q' (p ++ rest))
    : FirstPart q (w ++ cs) := by
  have goesOn {p : List Char} {q'' : Quoting} (hp : p <+: cs) (h : Uncut q' p q'')
      : Uncut q (w ++ p) q'' := by
    intro begun rest seam
    rw [List.append_assoc, step begun p rest hp seam, h _ rest seam, List.reverse_append,
      List.append_assoc]
  cases h with
  | whole proper uncut => exact .whole proper (goesOn List.prefix_rfl uncut)
  | before uncut rest =>
      rw [← List.append_assoc]
      exact .before (goesOn (List.prefix_append _ _) uncut) rest

/-- A character that does not close the string it is in. A backslash holds what comes after it,
which at a seam is no quote.
-/
theorem partsAfter_inQuote {quote : Char} (proper : Proper (.quoted quote)) (other : c ≠ quote)
    (bare : c = '\\' → Seam rest) (begun : List Char)
    : partsAfter isComma begun (.quoted quote) (c :: rest)
      = partsAfter isComma (c :: begun) (.quoted quote) rest := by
  by_cases hc : c = '\\'
  · subst hc
    cases rest with
    | nil => simp [partsAfter]
    | cons d rest =>
        have hd := (bare rfl).unquoted
        have open_ : d ≠ quote := by
          rintro rfl
          exact absurd (proper d rfl) (by simp [hd.1])
        rw [partsAfter, partsAfter, if_neg open_]
        exact fun _ _ he => absurd he hd.2.2
  · rw [partsAfter, if_neg other]
    exact fun _ _ he => absurd he hc

/-- Any text is read up to a comma or to its end, by the cases of the reading. What has been read
before does not matter.
-/
theorem firstPart (proper : Proper q) (cs : List Char)
    : FirstPart q cs := by
  have begun : List Char := []
  -- Three single quotes can only come in from beyond the seam, and there is none.
  have single {c : Char} {cs p rest : List Char}
      (hne : ∀ ds, c = '\'' → cs = '\'' :: '\'' :: ds → False) (hp : p <+: cs) (seam : Seam rest)
      : ∀ ds, c = '\'' → p ++ rest = '\'' :: '\'' :: ds → False := by
    refine of_not_triple fun ht => not_triple_of hne ?_
    have hc : tripleQuote <+: c :: p := prefix_of_apart ht seam.apart (List.cons_ne_nil c p)
    exact hc.trans (List.cons_prefix_cons.mpr ⟨rfl, hp⟩)
  fun_induction partsAfter isComma begun q cs with
  | case1 begun q => exact .whole proper fun _ _ _ => rfl
  | case2 begun cs ih => exact (ih nofun).prepend (w := tripleQuote) fun _ _ _ _ _ => rfl
  | case3 begun cs ih => exact (ih nofun).prepend (w := tripleQuote) fun _ _ _ _ _ => rfl
  | case4 begun q c cs ih => exact (ih proper).prepend (w := ['\\', c]) fun _ _ _ _ _ => rfl
  | case5 begun c cs hne ih =>
      refine (ih nofun).prepend (w := [c]) fun begun p rest hp seam => ?_
      rw [List.singleton_append, partsAfter]
      · rfl
      · exact single hne hp seam
  | case6 begun q cs hne comma =>
      obtain rfl : q = ',' := by simpa using comma
      cases proper ',' rfl
  | case7 begun q cs hne comma ih =>
      refine (ih nofun).prepend (w := [q]) fun begun p rest _ _ => ?_
      rw [List.singleton_append, partsAfter, if_pos rfl, if_neg comma]
      · rfl
      · exact fun _ _ he => absurd he (ne_of_isQuote (proper q rfl)).1
  | case8 begun q c cs hne other ih =>
      refine (ih proper).prepend (w := [c]) fun begun p rest hp seam => ?_
      refine partsAfter_inQuote proper other (fun hb => ?_) begun
      cases cs with
      | nil => rwa [List.prefix_nil.mp hp]
      | cons d ds => exact (hne d ds hb rfl).elim
  | case9 begun c cs hne quote ih =>
      refine (ih ?_).prepend (w := [c]) fun begun p rest hp seam => ?_
      · rintro _ ⟨⟩
        exact quote
      · rw [List.singleton_append, partsAfter, if_pos quote]
        · rfl
        · exact single hne hp seam
  | case10 begun c cs hne quote comma =>
      obtain rfl : c = ',' := by simpa using comma
      exact .before (p := []) (fun _ _ _ => rfl) cs
  | case11 begun c cs hne quote comma ih =>
      refine (ih nofun).prepend (w := [c]) fun begun p rest hp seam => ?_
      rw [List.singleton_append, partsAfter, if_neg quote, if_neg comma]
      · rfl
      · exact single hne hp seam

-----------------------------------------------------------------------------------------
-- White space around a part
-----------------------------------------------------------------------------------------

/-- White space is never cut, whatever follows it. -/
theorem partsAfter_blank (proper : Proper q) (h : ∀ c ∈ ds, isBlank c = true)
    (begun rest : List Char)
    : partsAfter isComma begun q (ds ++ rest)
      = partsAfter isComma (ds.reverse ++ begun) q rest := by
  have one {c : Char} (hc : isBlank c = true) (begun rest : List Char)
      : partsAfter isComma begun q (c :: rest) = partsAfter isComma (c :: begun) q rest := by
    have unquoted : Literal.isQuote c = false := (unquoted_of_isBlank hc).1
    have single : ∀ ds, c = '\'' → rest = '\'' :: '\'' :: ds → False := by
      rintro _ rfl
      cases hc
    cases q with
    | plain =>
        have comma : ¬ isComma c = true := by
          rw [isComma, decide_eq_true_eq]
          rintro rfl
          cases hc
        rw [partsAfter, if_neg (by simp [unquoted]), if_neg comma]
        exact single
    | block =>
        rw [partsAfter]
        exact single
    | quoted quote =>
        refine partsAfter_inQuote proper ?_ ?_ begun <;> rintro rfl
        · exact absurd (proper c rfl) (by simp [unquoted])
        · cases hc
  induction ds generalizing begun with
  | nil => rfl
  | cons c ds ih =>
      obtain ⟨hc, hds⟩ := List.forall_mem_cons.mp h
      rw [List.cons_append, one hc, ih hds, List.reverse_cons, List.append_assoc]
      rfl

/-- Any text has a part, by the cases of the reading. -/
theorem partsAfter_ne_nil (begun : List Char) (q : Quoting) (cs : List Char)
    : partsAfter isComma begun q cs ≠ [] := by
  fun_induction partsAfter isComma begun q cs <;> simp_all

theorem Uncut.partsAfter_eq (h : Uncut q cs q') (begun : List Char)
    : partsAfter isComma begun q cs = [begun.reverse ++ cs] := by
  have all := h begun [] nofun
  rwa [List.append_nil, partsAfter_nil, List.reverse_append, List.reverse_reverse] at all

/-- A text that can be cut off at a comma leaves no string open. -/
theorem Uncut.eq_plain (proper : Proper q') (h : Uncut q cs q') (cut : Uncut q cs .plain)
    : q' = .plain := by
  have both := (cut [] [','] (seam_comma [])).symm.trans (h [] [','] (seam_comma []))
  rw [partsAfter_comma, partsAfter_nil] at both
  cases q' with
  | plain => rfl
  | block => simp [partsAfter] at both
  | quoted quote =>
      have open_ : ',' ≠ quote := by
        rintro rfl
        cases proper ',' rfl
      simp [partsAfter, open_] at both

theorem Seam.blank_append (h : Seam rest) (hd : ∀ c ∈ ds, isBlank c = true)
    : Seam (ds ++ rest) := by
  cases ds with
  | nil => exact h
  | cons d ds => exact fun c hc => .inr (Option.some.inj hc ▸ hd d List.mem_cons_self)

/-- White space around a text that is not cut does not matter for it. -/
theorem Uncut.unpadded {before after : List Char} (hb : ∀ c ∈ before, isBlank c = true)
    (ha : ∀ c ∈ after, isBlank c = true) (h : Uncut .plain (before ++ cs ++ after) q)
    : ∃ q', Uncut .plain cs q' ∧ (q = .plain → q' = .plain) := by
  have padded {ds : List Char} {q' : Quoting} (hd : Uncut .plain ds q')
      : Uncut .plain (before ++ ds) q' := by
    intro begun rest seam
    rw [List.append_assoc, partsAfter_blank proper_plain hb, hd _ rest seam, List.reverse_append,
      List.append_assoc]
  cases firstPart proper_plain cs with
  | @whole _ q' proper uncut =>
      have all : Uncut .plain (before ++ cs ++ after) q' := by
        intro begun rest seam
        have later := partsAfter_blank proper ha ((before ++ cs).reverse ++ begun) rest
        rw [List.append_assoc, padded uncut _ _ (seam.blank_append ha), later]
        simp
      refine ⟨q', uncut, ?_⟩
      rintro rfl
      exact all.eq_plain proper h
  | @before p uncut rest =>
      have cut := padded uncut [] (',' :: rest ++ after) (seam_comma _)
      have parts := h.partsAfter_eq []
      rw [List.append_assoc, List.append_assoc, ← List.append_assoc, cut, List.cons_append,
        partsAfter_comma] at parts
      exact absurd (List.cons.inj parts).2 (partsAfter_ne_nil _ _ _)

/-- Trimming keeps a text whole. -/
theorem Uncut.trim (h : Uncut .plain cs q)
    : ∃ q', Uncut .plain (trim cs) q' ∧ (q = .plain → q' = .plain) := by
  obtain ⟨before, after, hb, ha, he⟩ := exists_padding cs
  rw [he] at h
  exact h.unpadded hb ha

-----------------------------------------------------------------------------------------
-- The parts of a text
-----------------------------------------------------------------------------------------

/-- Every part of a text is whole, and those before another one leave no string open. By induction
on the length of the text.
-/
theorem uncut_partsAfter (cs : List Char)
    : (∀ p ∈ partsAfter isComma [] .plain cs, ∃ q, Uncut .plain p q)
      ∧ (partsAfter isComma [] .plain cs).Pairwise fun p _ => Uncut .plain p .plain := by
  induction hn : cs.length using Nat.strong_induction_on generalizing cs with
  | _ n ih =>
      subst hn
      cases firstPart proper_plain cs with
      | @whole _ q _ uncut =>
          rw [uncut.partsAfter_eq, List.reverse_nil, List.nil_append]
          exact ⟨List.forall_mem_singleton.mpr ⟨q, uncut⟩, List.pairwise_singleton _ _⟩
      | @before p uncut rest =>
          obtain ⟨parts, closed⟩ := ih rest.length (by simp; omega) rest rfl
          rw [uncut [] _ (seam_comma rest), partsAfter_comma, List.append_nil, List.reverse_reverse]
          exact ⟨List.forall_mem_cons.mpr ⟨⟨.plain, uncut⟩, parts⟩,
            List.pairwise_cons.mpr ⟨fun _ _ => uncut, closed⟩⟩

end

/-- What a text is cut into can be joined with commas and cut again. -/
theorem rejoinable_splitCommas (s : String)
    : Rejoinable (splitCommas s) := by
  obtain ⟨uncut, closed⟩ := uncut_partsAfter s.toList
  refine ⟨fun p => trimmed_of_mem_splitCommas, ?_, ?_⟩
  · intro p hp begun
    obtain ⟨cs, hcs, rfl⟩ := List.mem_map.mp hp
    obtain ⟨raw, hraw, rfl⟩ := List.mem_map.mp (List.mem_of_mem_filter hcs)
    obtain ⟨q, hq⟩ := uncut raw hraw
    obtain ⟨q', hq', _⟩ := hq.trim
    rw [String.toList_ofList]
    exact hq'.partsAfter_eq begun
  · rw [splitCommas, splitOutsideQuotes, List.pairwise_map]
    refine List.Pairwise.filter _ (List.pairwise_map.mpr (closed.imp ?_))
    intro p _ hp
    obtain ⟨q', hq', hplain⟩ := hp.trim
    rw [String.toList_ofList]
    exact hplain rfl ▸ hq'

/-- What a text is cut into comes back when it is joined with commas and cut again. -/
theorem splitCommas_rejoined (s : String)
    : splitCommas (", ".intercalate (splitCommas s)) = splitCommas s :=
  (rejoinable_splitCommas s).splitCommas_intercalate

end SchemaMarkup.Markup
