import SchemaMarkup.Proofs.Markup.Blocks

/-! Lines as they are scanned. Whatever a text says, each of its lines but the last one leaves no
block open, and what is left of it and of its comment without white space around is not empty.
-/

namespace SchemaMarkup.Markup

open Text Token

/-- Whether a line of text is one that has ended. -/
structure BlockLine.Tidy (l : BlockLine) : Prop where
  nonempty : l.text ≠ ""
  trimmed : IsTrimmed l.text.toList
  settled : Settled endsText l.text.toList
  comment : ∀ c ∈ l.comment, PlainComment c

/-- Whether a token is a brace or a line that has ended. -/
def Token.Tidy : Token → Prop
  | .text s comment _ => BlockLine.Tidy ⟨s, comment⟩
  | _ => True

/-- Whether a line ends where a text, from some quoting on, begins. -/
inductive Stops (ends : Char → Bool) : Quoting → List Char → Prop
  | exhausted (q : Quoting) : Stops ends q []
  | ended {c : Char} (stop : ends c = true) (rest : List Char) : Stops ends .plain (c :: rest)
  | comment (rest : List Char) : Stops ends .plain ('/' :: '/' :: rest)
  | feed (quote : Char) (rest : List Char) : Stops ends (.quoted quote) ('\n' :: rest)

section

variable {ends : Char → Bool} {q q' : Quoting} {w rest cs r : List Char} {k : Option String}

/-- A text goes on with a step unless its line ends, by the cases of what a text leads to. -/
theorem stops_or_step (ends : Char → Bool) (proper : Proper q) (cs : List Char)
    : Stops ends q cs ∨ ∃ w rest q', cs = w ++ rest ∧ Step ends q w rest q' := by
  fun_cases quotingAfter? ends q cs with
  | case1 q => exact .inl (.exhausted q)
  | case2 cs => exact .inr ⟨_, cs, _, rfl, .openBlock cs⟩
  | case3 cs => exact .inr ⟨_, cs, _, rfl, .closeBlock cs⟩
  | case4 quote c cs => exact .inr ⟨['\\', c], cs, _, rfl, .escaped quote c cs⟩
  | case5 c cs hne => exact .inr ⟨[c], cs, _, rfl, .inBlock (not_triple_of hne)⟩
  | case6 quote cs hne => exact .inr ⟨[quote], cs, _, rfl, .closeQuote (proper quote rfl) cs⟩
  | case7 quote cs hne hq => exact .inl (.feed quote cs)
  | case8 quote c cs hne hq hl =>
      refine .inr ⟨[c], cs, _, rfl, .inQuote hq hl fun hb => ?_⟩
      cases cs with
      | nil => rfl
      | cons d cs => exact (hne d cs hb rfl).elim
  | case9 c cs hne quote => exact .inr ⟨[c], cs, _, rfl, .openQuote quote (not_triple_of hne)⟩
  | case10 c cs hne quote stop =>
      simp only [Bool.or_eq_true, Bool.and_eq_true, decide_eq_true_eq] at stop
      rcases stop with stop | ⟨rfl, hs⟩
      · exact .inl (.ended stop cs)
      · obtain ⟨cs, rfl⟩ := List.head?_eq_some_iff.mp hs
        exact .inl (.comment cs)
  | case11 c cs hne quote goes =>
      simp only [Bool.or_eq_true, decide_eq_true_eq, not_or, Bool.not_eq_true, Bool.and_eq_true,
        not_and] at quote goes
      exact .inr ⟨[c], cs, _, rfl, .plain quote goes.1 goes.2⟩

theorem Step.proper (h : Step ends q w rest q') (proper : Proper q)
    : Proper q' := by
  cases h with
  | openBlock => nofun
  | closeBlock => nofun
  | inBlock => exact proper
  | openQuote quote =>
      rintro _ ⟨⟩
      exact quote
  | closeQuote => nofun
  | escaped => exact proper
  | inQuote => exact proper
  | plain => exact proper

/-- The comment that two slashes start is of one line. -/
theorem plainComment_commentText {c : String}
    (h : c ∈ commentText ('/' :: '/' :: cs.takeWhile (· ≠ '\n')))
    : PlainComment c := by
  rw [commentText] at h
  split at h
  · cases h
  · rename_i d ds ht
    obtain rfl := Option.some.inj h
    have htrim : IsTrimmed (d :: ds) := ht ▸ isTrimmed_trim _
    refine ⟨?_, ?_, ?_⟩
    · simp
    · rw [Text.trimmed, String.toList_ofList, htrim.trim_eq]
    · rw [String.toList_ofList, ← ht]
      intro hm
      obtain ⟨before, after, _, _, he⟩ := exists_padding (cs.takeWhile (· ≠ '\n'))
      have hmem : '\n' ∈ cs.takeWhile (· ≠ '\n') := by
        rw [he]
        exact List.mem_append_left _ (List.mem_append_right _ hm)
      simpa using List.mem_takeWhile_imp hmem

/-- A line that has ended where no block is open is tidy. -/
theorem tidy_finished (h : Leads endsText cs .plain r.reverse q) (hq : q ≠ .block) (hcs : cs ≠ [])
    (hk : ∀ c ∈ k, PlainComment c)
    : ∀ t ∈ finished r k, t.Tidy := by
  intro t ht
  rw [finished, Pending.finish] at ht
  split at ht
  · cases ht
  · rename_i c s hs
    obtain rfl := List.mem_singleton.mp ht
    have hall : Leads endsText [] .plain r.reverse q :=
      h.before apart_nil fun he => absurd he hcs
    have htrim := quotingAfter?_trim hall.quotingAfter?_eq
    rw [hs] at htrim
    refine ⟨by simp, ?_, ?_, hk⟩
    · rw [String.toList_ofList, ← hs]
      exact isTrimmed_trim _
    · rw [String.toList_ofList]
      exact settled_of_quotingAfter? hq htrim

theorem pairwise_finished (r : List Char) (k : Option String)
    : (finished r k).Pairwise fun t _ => t.Tidy := by
  rw [finished, Pending.finish]
  split
  · exact .nil
  · exact List.pairwise_singleton _ _

theorem scannedFrom_nil (q : Quoting)
    : scannedFrom q r k [] = finished r k := by
  have hnil : scanned r k [] = finished r k := by
    rw [scanned, Lexeme.ofText, unplacedTokens]
  cases q with
  | block => exact hnil
  | plain => exact hnil
  | quoted quote => exact hnil

/-- What comes after a comment begins with a line feed, if anything comes. -/
theorem apart_dropWhile (rest : List Char)
    : Apart (rest.dropWhile (· ≠ '\n')) := by
  have hd := List.head?_dropWhile_not (fun c : Char => decide (c ≠ '\n')) rest
  cases he : rest.dropWhile (· ≠ '\n') with
  | nil => exact apart_nil
  | cons c cs =>
      rw [he] at hd
      obtain rfl : c = '\n' := by simpa using hd
      exact apart_cons (by decide)

/-- All lines but the last are tidy, by induction on what is left of the text. What was read of the
unfinished line leads to the quoting in which the text goes on.
-/
theorem pairwise_scannedFrom (proper : Proper q) (h : Leads endsText cs .plain r.reverse q)
    (hk : ∀ c ∈ k, PlainComment c)
    : (scannedFrom q r k cs).Pairwise fun t _ => t.Tidy := by
  induction hn : cs.length using Nat.strong_induction_on generalizing q r k cs with
  | _ n ih =>
      subst hn
      have shorter {rest : List Char} (hl : rest.length < cs.length)
          : (scanned [] none rest).Pairwise fun t _ => t.Tidy :=
        ih _ hl proper_plain (.nil .plain) (by simp) rfl
      have ended {ts : List Token} (hq : q ≠ .block) (hcs : cs ≠ [])
          (hts : ts.Pairwise fun t _ => t.Tidy)
          : (finished r k ++ ts).Pairwise fun t _ => t.Tidy :=
        List.pairwise_append.mpr
          ⟨pairwise_finished r k, hts, fun t ht _ _ => tidy_finished h hq hcs hk t ht⟩
      rcases stops_or_step endsText proper cs with stop | ⟨w, rest, q', rfl, step⟩
      · cases stop with
        | exhausted q =>
            rw [scannedFrom_nil]
            exact pairwise_finished r k
        | @ended c stop rest =>
            have hrest : (scanned [] none rest).Pairwise fun t _ => t.Tidy := shorter (by simp)
            have hplain : Quoting.plain ≠ .block := by simp
            simp only [endsText, Bool.or_eq_true, decide_eq_true_eq] at stop
            rcases stop with (rfl | rfl) | rfl
            · rw [scannedFrom, scanned_opening]
              exact ended hplain (List.cons_ne_nil _ _) (.cons (fun _ _ => trivial) hrest)
            · rw [scannedFrom, scanned_closing]
              exact ended hplain (List.cons_ne_nil _ _) (.cons (fun _ _ => trivial) hrest)
            · rw [scannedFrom, scanned_newline]
              exact ended hplain (List.cons_ne_nil _ _) hrest
        | comment rest =>
            have hless : (rest.dropWhile (· ≠ '\n')).length < ('/' :: '/' :: rest).length := by
              have hsuffix := (List.dropWhile_suffix (l := rest) (· ≠ '\n')).length_le
              rw [List.length_cons, List.length_cons]
              omega
            have hrest := h.before (apart_dropWhile rest) (by simp)
            rw [scannedFrom, scanned_comment]
            exact ih _ hless proper_plain hrest (fun c => plainComment_commentText) rfl
        | feed quote rest =>
            have hscan : scannedFrom (.quoted quote) r k ('\n' :: rest)
                = scanned r k ('\n' :: rest) :=
              rfl
            rw [hscan, scanned_newline]
            exact ended (by simp) (List.cons_ne_nil _ _) (shorter (by simp))
      · have hless : rest.length < (w ++ rest).length := by
          have hw := List.length_pos_iff.mpr step.ne_nil
          rw [List.length_append]
          omega
        have hnext : Leads endsText rest .plain (w.reverse ++ r).reverse q' := by
          rw [List.reverse_append, List.reverse_reverse]
          exact h.append step.leads
        rw [step.scannedFrom]
        exact ih _ hless (step.proper proper) hnext hk rfl

/-- All lines of a text but the last are tidy. -/
theorem pairwise_scanned (text : List Char)
    : (scanned [] none text).Pairwise fun t _ => t.Tidy :=
  pairwise_scannedFrom proper_plain (.nil .plain) nofun

end
end SchemaMarkup.Markup
