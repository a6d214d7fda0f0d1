import Mathlib.Data.List.Induction
import SchemaMarkup.Proofs.Markup.Notes

/-! Strings that open and close along a text. Both the scanner, which ends a line at a brace, and
the reader of constraints, which cuts at commas, go through a text in the same steps as long as
neither has to do so.
-/

namespace SchemaMarkup.Markup

open Text

/-- Whether a character ends a line of text where no string is open. -/
def endsText (c : Char) : Bool :=
  c = '\x7b' || c = '\x7d' || c = '\n'

/-- Whether a character ends a constraint where no string is open. -/
def endsPart (c : Char) : Bool :=
  c = ',' || endsText c

/-- One step through a text: some characters, before the rest, lead from one quoting to the next. -/
inductive Step (ends : Char → Bool) : Quoting → List Char → List Char → Quoting → Prop
  | openBlock (rest : List Char) : Step ends .plain tripleQuote rest .block
  | closeBlock (rest : List Char) : Step ends .block tripleQuote rest .plain
  | inBlock {c : Char} {rest : List Char} (open_ : ¬ tripleQuote <+: c :: rest)
    : Step ends .block [c] rest .block
  | openQuote {q : Char} {rest : List Char} (quote : Literal.isQuote q = true)
      (single : ¬ tripleQuote <+: q :: rest)
    : Step ends .plain [q] rest (.quoted q)
  | closeQuote {q : Char} (quote : Literal.isQuote q = true) (rest : List Char)
    : Step ends (.quoted q) [q] rest .plain
  | escaped (q c : Char) (rest : List Char) : Step ends (.quoted q) ['\\', c] rest (.quoted q)
  | inQuote {q c : Char} {rest : List Char} (open_ : c ≠ q) (line : c ≠ '\n')
      (bare : c = '\\' → rest = [])
    : Step ends (.quoted q) [c] rest (.quoted q)
  | plain {c : Char} {rest : List Char} (unquoted : Literal.isQuote c = false)
      (goesOn : ends c = false) (noComment : c = '/' → rest.head? ≠ some '/')
    : Step ends .plain [c] rest .plain

/-- Whether a text, before what comes after it, leads from one quoting to another step by step. -/
inductive Leads (ends : Char → Bool) (after : List Char) : Quoting → List Char → Quoting → Prop
  | nil (q : Quoting) : Leads ends after q [] q
  | cons {q q' q'' : Quoting} {w cs : List Char} (step : Step ends q w (cs ++ after) q')
      (rest : Leads ends after q' cs q'')
    : Leads ends after q (w ++ cs) q''

/-- Whether the quote of an open string is one. -/
def Proper (q : Quoting) : Prop :=
  ∀ quote, q = .quoted quote → Literal.isQuote quote = true

theorem proper_plain
    : Proper .plain :=
  nofun

/-- Whether a text neither goes on with a single quote nor with a slash. -/
def Apart (after : List Char) : Prop :=
  after.head? ≠ some '\'' ∧ after.head? ≠ some '/'

theorem apart_nil
    : Apart [] :=
  ⟨nofun, nofun⟩

theorem apart_cons {c : Char} {after : List Char} (h : c ≠ '\'' ∧ c ≠ '/')
    : Apart (c :: after) :=
  ⟨fun he => h.1 (Option.some.inj he), fun he => h.2 (Option.some.inj he)⟩

section

variable {ends : Char → Bool} {q q' q'' : Quoting} {w cs ds after after' : List Char}

/-- Triple quotes do not begin in a text and end after it, if no single quote comes after it. -/
theorem prefix_of_apart (h : tripleQuote <+: cs ++ after) (apart : Apart after) (hne : cs ≠ [])
    : tripleQuote <+: cs := by
  obtain ⟨ds, hd⟩ := h
  rcases cs with _ | ⟨a, _ | ⟨b, _ | ⟨c, cs⟩⟩⟩
  · exact absurd rfl hne
  · cases after with
    | nil => simp [tripleQuote] at hd
    | cons x xs =>
        simp only [tripleQuote, List.cons_append, List.nil_append, List.cons.injEq] at hd
        exact absurd (congrArg some hd.2.1.symm) apart.1
  · cases after with
    | nil => simp [tripleQuote] at hd
    | cons x xs =>
        simp only [tripleQuote, List.cons_append, List.nil_append, List.cons.injEq] at hd
        exact absurd (congrArg some hd.2.2.1.symm) apart.1
  · simp only [tripleQuote, List.cons_append, List.nil_append, List.cons.injEq] at hd
    obtain ⟨rfl, rfl, rfl, _⟩ := hd
    exact ⟨cs, rfl⟩

/-- A step depends on what follows only if that goes on with a quote or a slash, or if nothing has
followed a backslash.
-/
theorem Step.before (h : Step ends q w (cs ++ after) q') (apart : Apart after')
    (closed : after = [] → cs = [] → ∀ quote, q' = .quoted quote → w.getLast? ≠ some '\\')
    : Step ends q w (cs ++ after') q' := by
  have noBlock {c : Char} (hn : ¬ tripleQuote <+: c :: (cs ++ after))
      : ¬ tripleQuote <+: c :: (cs ++ after') := by
    intro hp
    rw [← List.cons_append] at hp hn
    exact hn ((prefix_of_apart hp apart (List.cons_ne_nil c cs)).trans (List.prefix_append _ _))
  generalize hr : cs ++ after = rest at h
  cases h with
  | openBlock => exact .openBlock _
  | closeBlock => exact .closeBlock _
  | inBlock open_ => exact .inBlock (noBlock (hr ▸ open_))
  | openQuote quote single => exact .openQuote quote (noBlock (hr ▸ single))
  | closeQuote quote => exact .closeQuote quote _
  | escaped q c => exact .escaped q c _
  | @inQuote q c _ open_ line bare =>
      refine .inQuote open_ line fun hc => ?_
      obtain ⟨rfl, rfl⟩ := List.append_eq_nil_iff.mp (hr.trans (bare hc))
      exact absurd (congrArg some hc) (closed rfl rfl q rfl)
  | plain unquoted goesOn noComment =>
      refine .plain unquoted goesOn fun hc => ?_
      cases cs with
      | nil => exact apart.2
      | cons d cs =>
          have hd := noComment hc
          rw [← hr] at hd
          exact hd

/-- A step goes over some characters. -/
theorem Step.ne_nil {rest : List Char} (h : Step ends q w rest q')
    : w ≠ [] := by
  cases h <;> exact List.cons_ne_nil _ _

/-- Nothing leads nowhere. -/
theorem Leads.eq_of_nil (h : Leads ends after q [] q')
    : q = q' := by
  generalize hc : ([] : List Char) = cs at h
  cases h with
  | nil => rfl
  | cons step _ => exact absurd (List.append_eq_nil_iff.mp hc.symm).1 step.ne_nil

/-- Where a text leads does not depend on what follows, unless that goes on with a quote or a slash
or nothing has followed a backslash inside of quotes. By induction on the steps.
-/
theorem Leads.before (h : Leads ends after q cs q') (apart : Apart after')
    (closed : after = [] → ∀ quote, q' = .quoted quote → cs.getLast? ≠ some '\\')
    : Leads ends after' q cs q' := by
  induction h with
  | nil q => exact .nil q
  | @cons q q₁ q₂ w cs step rest ih =>
      refine .cons (step.before apart ?_) (ih ?_)
      · rintro ha rfl quote rfl
        rw [List.append_nil] at closed
        exact closed ha quote rest.eq_of_nil.symm
      · intro ha quote hq hlast
        have hne : cs ≠ [] := by
          rintro rfl
          cases hlast
        exact closed ha quote hq (by rw [List.getLast?_append_of_ne_nil w hne, hlast])

theorem Leads.append (h : Leads ends (ds ++ after) q cs q') (hd : Leads ends after q' ds q'')
    : Leads ends after q (cs ++ ds) q'' := by
  induction h with
  | nil => exact hd
  | cons step _ ih =>
      rw [List.append_assoc]
      refine .cons ?_ (ih hd)
      rwa [List.append_assoc]

theorem Step.leads (h : Step ends q w after q')
    : Leads ends after q w q' := by
  have hn : Leads ends after q (w ++ []) q' := .cons h (.nil q')
  rwa [List.append_nil] at hn

/-- Fewer characters may end a text. -/
theorem Leads.mono {ends' : Char → Bool} (h : Leads ends after q cs q')
    (fewer : ∀ c, ends c = false → ends' c = false)
    : Leads ends' after q cs q' := by
  induction h with
  | nil q => exact .nil q
  | cons step _ ih =>
      refine .cons ?_ ih
      cases step with
      | openBlock => exact .openBlock _
      | closeBlock => exact .closeBlock _
      | inBlock open_ => exact .inBlock open_
      | openQuote quote single => exact .openQuote quote single
      | closeQuote quote => exact .closeQuote quote _
      | escaped q c => exact .escaped q c _
      | inQuote open_ line bare => exact .inQuote open_ line bare
      | plain unquoted goesOn noComment => exact .plain unquoted (fewer _ goesOn) noComment

end

-----------------------------------------------------------------------------------------
-- Where a text leads can be computed
-----------------------------------------------------------------------------------------

/-- Where a text leads, if it leads anywhere. -/
def quotingAfter? (ends : Char → Bool) : Quoting → List Char → Option Quoting
  | q, [] => some q
  | .plain, '\'' :: '\'' :: '\'' :: cs => quotingAfter? ends .block cs
  | .block, '\'' :: '\'' :: '\'' :: cs => quotingAfter? ends .plain cs
  | .quoted q, '\\' :: _ :: cs => quotingAfter? ends (.quoted q) cs
  | .block, _ :: cs => quotingAfter? ends .block cs
  | .quoted q, c :: cs =>
    if c = q then quotingAfter? ends .plain cs
    else if c = '\n' then none
    else quotingAfter? ends (.quoted q) cs
  | .plain, c :: cs =>
    if Literal.isQuote c then quotingAfter? ends (.quoted c) cs
    else if ends c || (c = '/' && cs.head? = some '/') then none
    else quotingAfter? ends .plain cs

section

variable {ends : Char → Bool} {q q' q'' : Quoting} {w rest cs ds after : List Char}

theorem not_triple_of {c : Char}
    (h : ∀ ds, c = '\'' → rest = '\'' :: '\'' :: ds → False)
    : ¬ tripleQuote <+: c :: rest := by
  rintro ⟨ds, hd⟩
  simp only [tripleQuote, List.cons_append, List.nil_append, List.cons.injEq] at hd
  exact h ds hd.1.symm hd.2.symm

theorem of_not_triple {c : Char} (h : ¬ tripleQuote <+: c :: rest)
    : ∀ ds, c = '\'' → rest = '\'' :: '\'' :: ds → False := by
  rintro ds rfl rfl
  exact h ⟨ds, rfl⟩

/-- A quote is neither a backslash nor a line feed. -/
theorem ne_of_isQuote (h : Literal.isQuote c = true)
    : c ≠ '\\' ∧ c ≠ '\n' := by
  constructor <;> (rintro rfl; cases h)

/-- Computing goes on after a step. -/
theorem Step.quotingAfter? (h : Step ends q w rest q')
    : quotingAfter? ends q (w ++ rest) = Markup.quotingAfter? ends q' rest := by
  cases h with
  | openBlock => rfl
  | closeBlock => rfl
  | inBlock open_ =>
      rw [List.singleton_append, Markup.quotingAfter?]
      exact of_not_triple open_
  | openQuote quote single =>
      rw [List.singleton_append, Markup.quotingAfter?, if_pos quote]
      exact of_not_triple single
  | @closeQuote q quote =>
      rw [List.singleton_append, Markup.quotingAfter?, if_pos rfl]
      exact fun _ _ he => absurd he (ne_of_isQuote quote).1
  | escaped => rfl
  | inQuote open_ line bare =>
      rw [List.singleton_append, Markup.quotingAfter?, if_neg open_, if_neg line]
      intro d ds hc hr
      rw [bare hc] at hr
      cases hr
  | @plain c rest unquoted goesOn noComment =>
      rw [List.singleton_append, Markup.quotingAfter?, if_neg (by simp [unquoted]), if_neg]
      · simpa [goesOn] using noComment
      · rintro ds rfl
        cases unquoted

theorem Leads.quotingAfter?_append (h : Leads ends ds q cs q')
    : quotingAfter? ends q (cs ++ ds) = quotingAfter? ends q' ds := by
  induction h with
  | nil => rfl
  | cons step _ ih => rw [List.append_assoc, step.quotingAfter?, ih]

theorem Leads.quotingAfter?_eq (h : Leads ends [] q cs q')
    : quotingAfter? ends q cs = some q' := by
  have hc := h.quotingAfter?_append
  rw [List.append_nil] at hc
  rw [hc, quotingAfter?]

/-- What is computed is where the text leads, by the cases of the computation. -/
theorem leads_of_quotingAfter? (proper : Proper q) (h : quotingAfter? ends q cs = some q')
    : Leads ends [] q cs q' := by
  have step {q q₁ : Quoting} {w cs : List Char} (hs : Step ends q w cs q₁)
      (hr : Leads ends [] q₁ cs q')
      : Leads ends [] q (w ++ cs) q' :=
    .cons (by rwa [List.append_nil]) hr
  fun_induction quotingAfter? ends q cs with
  | case1 q => exact Option.some.inj h ▸ .nil q
  | case2 cs ih => exact step (.openBlock cs) (ih nofun h)
  | case3 cs ih => exact step (.closeBlock cs) (ih nofun h)
  | case4 q c cs ih => exact step (.escaped q c cs) (ih proper h)
  | case5 c cs hne ih => exact step (.inBlock (not_triple_of hne)) (ih nofun h)
  | case6 q cs hne ih => exact step (.closeQuote (proper q rfl) cs) (ih nofun h)
  | case7 => cases h
  | case8 q c cs hne hq hc ih =>
      refine step (.inQuote hq hc fun hb => ?_) (ih proper h)
      cases cs with
      | nil => rfl
      | cons d cs => exact (hne d cs hb rfl).elim
  | case9 c cs hne quote ih =>
      refine step (.openQuote quote (not_triple_of hne)) (ih ?_ h)
      rintro _ ⟨⟩
      exact quote
  | case10 => cases h
  | case11 c cs hne quote goes ih =>
      simp only [Bool.or_eq_true, decide_eq_true_eq, not_or, Bool.not_eq_true, Bool.and_eq_true,
        not_and] at quote goes
      exact step (.plain quote goes.1 goes.2) (ih nofun h)

/-- A text leads where it is computed to lead. -/
theorem leads_iff (proper : Proper q)
    : Leads ends [] q cs q' ↔ quotingAfter? ends q cs = some q' :=
  ⟨Leads.quotingAfter?_eq, leads_of_quotingAfter? proper⟩

-----------------------------------------------------------------------------------------
-- Characters that neither open nor close a string
-----------------------------------------------------------------------------------------

theorem quotingAfter?_singleton (proper : Proper q) {d : Char}
    (unquoted : Literal.isQuote d = false) (slash : d ≠ '/')
    : quotingAfter? ends q [d] = some q
      ∨ (ends d = true ∨ d = '\n') ∧ quotingAfter? ends q [d] = none := by
  cases q with
  | block =>
      have open_ : ¬ tripleQuote <+: [d] := fun hp => absurd hp.length_le (by simp [tripleQuote])
      exact .inl (Step.inBlock open_).quotingAfter?
  | quoted quote =>
      have hd : d ≠ quote := by
        rintro rfl
        exact absurd (proper d rfl) (by simp [unquoted])
      by_cases hl : d = '\n'
      · refine .inr ⟨.inr hl, ?_⟩
        rw [quotingAfter?, if_neg hd, if_pos hl]
        simp
      · exact .inl (Step.inQuote hd hl fun _ => rfl).quotingAfter?
  | plain =>
      cases he : ends d with
      | false => exact .inl (Step.plain unquoted he fun hs => absurd hs slash).quotingAfter?
      | true =>
          refine .inr ⟨.inl rfl, ?_⟩
          rw [quotingAfter?, if_neg (by simp [unquoted]), if_pos (by simp [he])]
          simp

/-- A character that is neither a quote nor a slash changes nothing at the end of a text, unless it
ends the text. By the cases of the computation.
-/
theorem quotingAfter?_concat (ends : Char → Bool) (cs : List Char) (proper : Proper q) {d : Char}
    (unquoted : Literal.isQuote d = false) (slash : d ≠ '/')
    : quotingAfter? ends q (cs ++ [d]) = quotingAfter? ends q cs
      ∨ (ends d = true ∨ d = '\n') ∧ quotingAfter? ends q (cs ++ [d]) = none := by
  have single {c : Char} {cs : List Char}
      (hne : ∀ ds, c = '\'' → cs = '\'' :: '\'' :: ds → False)
      : ∀ ds, c = '\'' → cs ++ [d] = '\'' :: '\'' :: ds → False := by
    refine of_not_triple fun hp => not_triple_of hne ?_
    refine prefix_of_apart hp ⟨?_, ?_⟩ (List.cons_ne_nil c cs)
    · rintro ⟨⟩
      cases unquoted
    · exact fun hs => slash (Option.some.inj hs)
  have next (cs : List Char)
      : decide ((cs ++ [d]).head? = some '/') = decide (cs.head? = some '/') := by
    cases cs with
    | nil => simp [slash]
    | cons c cs => rfl
  fun_induction quotingAfter? ends q cs with
  | case1 q => exact quotingAfter?_singleton proper unquoted slash
  | case2 cs ih => exact ih nofun
  | case3 cs ih => exact ih nofun
  | case4 q c cs ih => exact ih proper
  | case5 c cs hne ih =>
      rw [List.cons_append, quotingAfter?]
      · exact ih nofun
      · exact single hne
  | case6 q cs hne ih =>
      rw [List.cons_append, quotingAfter?, if_pos rfl]
      · exact ih nofun
      · exact fun _ _ he => absurd he (ne_of_isQuote (proper q rfl)).1
  | case7 q cs hne hq =>
      refine .inl ?_
      rw [List.cons_append, quotingAfter?, if_neg hq, if_pos rfl]
      nofun
  | case8 q c cs hne hq hc ih =>
      by_cases hb : c = '\\' ∧ cs = []
      · obtain ⟨rfl, rfl⟩ := hb
        exact .inl rfl
      · rw [List.cons_append, quotingAfter?, if_neg hq, if_neg hc]
        · exact ih proper
        · intro e es he _
          refine hb ⟨he, ?_⟩
          cases cs with
          | nil => rfl
          | cons f fs => exact (hne f fs he rfl).elim
  | case9 c cs hne quote ih =>
      rw [List.cons_append, quotingAfter?, if_pos quote]
      · refine ih ?_
        rintro _ ⟨⟩
        exact quote
      · exact single hne
  | case10 c cs hne quote stops =>
      refine .inl ?_
      rw [List.cons_append, quotingAfter?, if_neg quote, if_pos]
      · rwa [next]
      · exact single hne
  | case11 c cs hne quote goes ih =>
      rw [List.cons_append, quotingAfter?, if_neg quote, if_neg]
      · exact ih nofun
      · rwa [next]
      · exact single hne

/-- Characters without quotes may be left out at the beginning of a text, by induction. -/
theorem quotingAfter?_of_unquoted (h : ∀ c ∈ ds, Literal.isQuote c = false)
    (all : quotingAfter? ends .plain (ds ++ cs) = some q)
    : quotingAfter? ends .plain cs = some q := by
  induction ds with
  | nil => exact all
  | cons d ds ih =>
      have hd := h d List.mem_cons_self
      refine ih (fun c hc => h c (List.mem_cons_of_mem d hc)) ?_
      rw [List.cons_append, quotingAfter?, if_neg (by simp [hd])] at all
      · split at all
        · cases all
        · exact all
      · rintro _ rfl
        cases hd

theorem unquoted_of_isBlank {c : Char} (h : isBlank c = true)
    : Literal.isQuote c = false ∧ c ≠ '/' := by
  refine ⟨?_, by rintro rfl; cases h⟩
  simp only [Literal.isQuote, Bool.or_eq_false_iff, decide_eq_false_iff_not]
  constructor <;> (rintro rfl; cases h)

/-- White space may be left out at the end of a text, by induction from the end. -/
theorem quotingAfter?_of_blank (proper : Proper q) (h : ∀ c ∈ ds, isBlank c = true)
    (all : quotingAfter? ends q (cs ++ ds) = some q')
    : quotingAfter? ends q cs = some q' := by
  induction ds using List.reverseRecOn with
  | nil => rwa [List.append_nil] at all
  | append_singleton ds d ih =>
      obtain ⟨unquoted, slash⟩ := unquoted_of_isBlank (h d (by simp))
      refine ih (fun c hc => h c (List.mem_append_left _ hc)) ?_
      rw [← List.append_assoc] at all
      rcases quotingAfter?_concat ends (cs ++ ds) proper unquoted slash with he | ⟨_, hn⟩
      · rwa [he] at all
      · rw [hn] at all
        cases all

/-- White space around a text does not matter for where it leads. -/
theorem quotingAfter?_trim (h : quotingAfter? ends .plain cs = some q)
    : quotingAfter? ends .plain (trim cs) = some q := by
  obtain ⟨before, after, hb, ha, he⟩ := exists_padding cs
  rw [he, List.append_assoc] at h
  have hrest := quotingAfter?_of_unquoted (fun c hc => (unquoted_of_isBlank (hb c hc)).1) h
  exact quotingAfter?_of_blank proper_plain ha hrest

end
end SchemaMarkup.Markup
