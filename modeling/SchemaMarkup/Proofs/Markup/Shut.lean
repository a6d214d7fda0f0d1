import SchemaMarkup.Proofs.Markup.Quotes
import SchemaMarkup.Proofs.Markup.Quoting

/-! Texts that leave nothing open. Written names, plain types and plain constraints close the
strings that they open, and a written note leaves no block open.
-/

namespace SchemaMarkup.Markup

open Text

-----------------------------------------------------------------------------------------
-- Texts that close their strings
-----------------------------------------------------------------------------------------

/-- Whether a text closes the strings that it opens, and nothing in it ends it. -/
def Shut (ends : Char → Bool) (cs : List Char) : Prop :=
  quotingAfter? ends .plain cs = some .plain

instance (ends : Char → Bool) (cs : List Char) : Decidable (Shut ends cs) :=
  inferInstanceAs (Decidable (_ = _))

section

variable {ends : Char → Bool} {q : Quoting} {cs ds after : List Char}

theorem Leads.shut (h : Leads ends after .plain cs .plain)
    : Shut ends cs :=
  (h.before apart_nil fun _ _ hq => nomatch hq).quotingAfter?_eq

theorem Shut.leads (h : Shut ends cs) (apart : Apart after)
    : Leads ends after .plain cs .plain :=
  (leads_of_quotingAfter? proper_plain h).before apart fun _ _ hq => nomatch hq

/-- Whether nothing in a text ends it and no block is left open. A string of one line may be. -/
def Settled (ends : Char → Bool) (cs : List Char) : Prop :=
  quotingAfter? ends .plain cs ≠ none ∧ quotingAfter? ends .plain cs ≠ some .block

instance (ends : Char → Bool) (cs : List Char) : Decidable (Settled ends cs) :=
  inferInstanceAs (Decidable (_ ∧ _))

theorem settled_iff
    : Settled ends cs ↔ ∃ q, q ≠ .block ∧ Leads ends [] .plain cs q := by
  simp only [Settled, leads_iff proper_plain]
  cases quotingAfter? ends .plain cs with
  | none => simp
  | some q => simp

theorem settled_of_quotingAfter? (hq : q ≠ .block) (h : quotingAfter? ends .plain cs = some q)
    : Settled ends cs :=
  settled_iff.mpr ⟨q, hq, leads_of_quotingAfter? proper_plain h⟩

theorem Shut.settled (h : Shut ends cs)
    : Settled ends cs :=
  settled_iff.mpr ⟨.plain, nofun, h.leads apart_nil⟩

/-- A text outside of strings may come before one that closes its strings. -/
theorem Leads.append_shut (h : Leads ends ds .plain cs .plain) (hd : Shut ends ds)
    : Shut ends (cs ++ ds) := by
  rw [← List.append_nil ds] at h
  exact (h.append (hd.leads apart_nil)).shut

theorem Leads.append_settled (h : Leads ends ds .plain cs .plain) (hd : Settled ends ds)
    : Settled ends (cs ++ ds) := by
  rw [← List.append_nil ds] at h
  obtain ⟨q, hq, hl⟩ := settled_iff.mp hd
  exact settled_iff.mpr ⟨q, hq, h.append hl⟩

/-- Whether a text, as the end of a line, ends where the line does. A backslash at the end of a
string that is open would take the line feed with it.
-/
def EndsLine (cs : List Char) : Prop :=
  Settled endsText cs ∧ (cs.getLast? = some '\\' → Shut endsText cs)

instance (cs : List Char) : Decidable (EndsLine cs) :=
  inferInstanceAs (Decidable (_ ∧ _))

theorem Shut.endsLine (h : Shut endsText cs)
    : EndsLine cs :=
  ⟨h.settled, fun _ => h⟩

theorem Settled.endsLine (h : Settled endsText cs) (hl : cs.getLast? ≠ some '\\')
    : EndsLine cs :=
  ⟨h, fun he => absurd he hl⟩

theorem Leads.append_endsLine (h : Leads endsText ds .plain cs .plain) (hd : EndsLine ds)
    : EndsLine (cs ++ ds) := by
  refine ⟨h.append_settled hd.1, fun hl => ?_⟩
  cases ds with
  | nil => exact h.append_shut rfl
  | cons d ds =>
      rw [List.getLast?_append_of_ne_nil _ (List.cons_ne_nil d ds)] at hl
      exact h.append_shut (hd.2 hl)

/-- What comes after a text that closes its strings leaves no more open than the whole does. -/
theorem Shut.settled_rest (h : Shut ends cs) (apart : Apart ds) (all : Settled ends (cs ++ ds))
    : Settled ends ds := by
  rwa [Settled, (h.leads apart).quotingAfter?_append] at all

/-- Characters without quotes before a text do not matter for what it leaves open. -/
theorem Settled.of_unquoted (all : Settled ends (ds ++ cs))
    (h : ∀ c ∈ ds, Literal.isQuote c = false)
    : Settled ends cs := by
  obtain ⟨q, hq, hl⟩ := settled_iff.mp all
  exact settled_of_quotingAfter? hq (quotingAfter?_of_unquoted h hl.quotingAfter?_eq)

/-- Nor does a character after it that is neither a quote nor a slash. -/
theorem Settled.of_concat {c : Char} (all : Settled ends (cs ++ [c]))
    (unquoted : Literal.isQuote c = false) (slash : c ≠ '/')
    : Settled ends cs := by
  rcases quotingAfter?_concat ends cs proper_plain unquoted slash with he | ⟨_, hn⟩
  · rwa [Settled, he] at all
  · exact absurd hn all.1

theorem Shut.mono {ends' : Char → Bool} (h : Shut ends cs)
    (fewer : ∀ c, ends c = false → ends' c = false)
    : Shut ends' cs :=
  ((h.leads apart_nil).mono fewer).shut

theorem Settled.mono {ends' : Char → Bool} (h : Settled ends cs)
    (fewer : ∀ c, ends c = false → ends' c = false)
    : Settled ends' cs := by
  obtain ⟨q, hq, hl⟩ := settled_iff.mp h
  exact settled_iff.mpr ⟨q, hq, hl.mono fewer⟩

/-- A character that changes nothing may end a text that leaves no block open. -/
theorem Settled.concat (h : Settled ends cs) {c : Char} (unquoted : Literal.isQuote c = false)
    (slash : c ≠ '/') (goesOn : ends c = false) (line : c ≠ '\n')
    : Settled ends (cs ++ [c]) := by
  rcases quotingAfter?_concat ends cs proper_plain unquoted slash with he | ⟨hs, _⟩
  · rwa [Settled, he]
  · exact absurd hs (by simp [goesOn, line])

theorem shut_nil
    : Shut ends [] := rfl

/-- A character that is no mark may come before a text that closes its strings. -/
theorem Shut.cons {c : Char} (h : Shut ends cs) (unquoted : Literal.isQuote c = false)
    (goesOn : ends c = false) (noComment : c = '/' → cs.head? ≠ some '/')
    : Shut ends (c :: cs) := by
  have step : Step ends .plain [c] cs .plain := .plain unquoted goesOn noComment
  rw [Shut, ← List.singleton_append, step.quotingAfter?, h]

/-- Characters that are no marks, by induction. -/
theorem shut_plain (h : ∀ c ∈ cs, Literal.isQuote c = false ∧ ends c = false)
    (noComment : ¬ ['/', '/'] <:+: cs)
    : Shut ends cs := by
  induction cs with
  | nil => exact shut_nil
  | cons c cs ih =>
      obtain ⟨unquoted, goesOn⟩ := h c List.mem_cons_self
      have hcs := ih (fun d hd => h d (List.mem_cons_of_mem c hd)) fun hi =>
        noComment (hi.trans (List.suffix_cons c cs).isInfix)
      refine hcs.cons unquoted goesOn ?_
      rintro rfl hd
      cases cs with
      | nil => cases hd
      | cons d cs => exact noComment ⟨[], cs, by rw [Option.some.inj hd]; rfl⟩

/-- Characters that are no marks lead on whatever follows, if there is no slash. By induction. -/
theorem leads_plain
    (h : cs.all (fun c => !Literal.isQuote c && !ends c && c ≠ '/') = true)
    : Leads ends after .plain cs .plain := by
  induction cs with
  | nil => exact .nil .plain
  | cons c cs ih =>
      simp only [List.all_cons, Bool.and_eq_true, Bool.not_eq_true', decide_eq_true_eq] at h
      obtain ⟨⟨⟨unquoted, goesOn⟩, slash⟩, hcs⟩ := h
      rw [← List.singleton_append]
      exact .cons (.plain unquoted goesOn fun he => absurd he slash) (ih (by simpa using hcs))

/-- A text between double quotes without quotes, backslashes and line feeds, by induction. -/
theorem shut_quoted (h : ∀ c ∈ cs, c ≠ '"' ∧ c ≠ '\\' ∧ c ≠ '\n')
    : Shut ends ('"' :: (cs ++ ['"'])) := by
  have inside : quotingAfter? ends (.quoted '"') (cs ++ ['"']) = some .plain := by
    induction cs with
    | nil =>
        have closed : Step ends (.quoted '"') ['"'] [] .plain := .closeQuote rfl []
        exact closed.quotingAfter?
    | cons c cs ih =>
        obtain ⟨hq, hb, hl⟩ := h c List.mem_cons_self
        have step : Step ends (.quoted '"') [c] (cs ++ ['"']) (.quoted '"') :=
          .inQuote hq hl fun he => absurd he hb
        rw [List.cons_append, ← List.singleton_append, step.quotingAfter?,
          ih fun d hd => h d (List.mem_cons_of_mem c hd)]
  have opened : Step ends .plain ['"'] (cs ++ ['"']) (.quoted '"') := by
    refine .openQuote rfl ?_
    rintro ⟨ds, hd⟩
    exact absurd (List.cons.inj hd).1 (by decide)
  rw [Shut, ← List.singleton_append, opened.quotingAfter?, inside]

/-- Whether a name between double quotes is closed by the second of them. -/
def ClosedName (name : String) : Prop :=
  Shut endsPart ('"' :: (name.toList ++ ['"']))

instance (name : String) : Decidable (ClosedName name) :=
  inferInstanceAs (Decidable (Shut _ _))

theorem PlainName.closed {name : String} (h : PlainName name)
    : ClosedName name :=
  shut_quoted h.chars

theorem shut_word {w : List Char} (h : ∀ c ∈ w, isWord c = true)
    : Shut endsPart w := by
  refine shut_plain ?_ fun hi => ?_
  · intro c hc
    have hne : ∀ d, isWord d = false → c ≠ d := fun d hd => ne_of_isWord (h c hc) hd
    simp [Literal.isQuote, endsPart, endsText, hne '"' (by decide), hne '\'' (by decide),
      hne '\x7b' (by decide), hne '\x7d' (by decide), hne '\n' (by decide), hne ',' (by decide)]
  · exact absurd (h '/' (hi.subset List.mem_cons_self)) (by decide)

/-- A written name closes its quotes if it has any. -/
theorem ClosedName.shut_writeName {name : String} (h : ClosedName name)
    : Shut endsPart (writeName name).toList := by
  rcases toList_writeName name with ⟨hw, he⟩ | he
  · rw [he]
    exact shut_word (isWordText_iff.mp hw).2
  · rw [he]
    exact h

/-- Paired double quotes, and no mark outside of them, by induction. -/
theorem shut_of_closesQuotes (h : closesQuotes false cs = true)
    : Shut endsPart cs := by
  have general (inside : Bool) (hc : closesQuotes inside cs = true)
      : quotingAfter? endsPart (if inside then .quoted '"' else .plain) cs = some .plain := by
    clear h
    induction cs generalizing inside with
    | nil =>
        cases inside with
        | false => rfl
        | true => cases hc
    | cons c cs ih =>
        rw [← List.singleton_append]
        by_cases hq : c = '"'
        · subst hq
          have hn := ih _ (closesQuotes_quote hc)
          cases inside with
          | false =>
              refine (Step.openQuote rfl ?_).quotingAfter?.trans hn
              exact not_triple_of fun _ he => absurd he (by decide)
          | true => exact (Step.closeQuote rfl cs).quotingAfter?.trans hn
        · cases inside with
          | false =>
              obtain ⟨hm, hs, hn⟩ := closesQuotes_outside hq hc
              simp only [isMark, Bool.or_eq_false_iff, decide_eq_false_iff_not] at hm
              obtain ⟨⟨⟨⟨hcomma, hsingle⟩, hopen⟩, hclose⟩, hline⟩ := hm
              have goesOn : endsPart c = false := by
                simp [endsPart, endsText, hcomma, hopen, hclose, hline]
              have unquoted : Literal.isQuote c = false := by simp [Literal.isQuote, hq, hsingle]
              exact (Step.plain unquoted goesOn hs).quotingAfter?.trans (ih false hn)
          | true =>
              obtain ⟨hb, hl, hn⟩ := closesQuotes_inside hq hc
              have step : Step endsPart (.quoted '"') [c] cs (.quoted '"') :=
                .inQuote hq hl fun he => absurd he hb
              exact step.quotingAfter?.trans (ih true hn)
  exact general false h

-----------------------------------------------------------------------------------------
-- Notes
-----------------------------------------------------------------------------------------

/-- A literal of one line closes its quotes, by induction on the text between them. -/
theorem shut_line (h : '\n' ∉ cs)
    : Shut ends (Literal.line cs) := by
  have inside : quotingAfter? ends (.quoted '"') (Literal.escape cs ++ ['"']) = some .plain := by
    induction cs with
    | nil =>
        have closed : Step ends (.quoted '"') ['"'] [] .plain := .closeQuote rfl []
        exact closed.quotingAfter?
    | cons c cs ih =>
        obtain ⟨hl, hcs⟩ := not_or.mp fun hm => h (List.mem_cons.mpr hm)
        rw [Literal.escape]
        split
        · have step
              : Step ends (.quoted '"') ['\\', c] (Literal.escape cs ++ ['"']) (.quoted '"') :=
            .escaped '"' c _
          exact step.quotingAfter?.trans (ih hcs)
        · rename_i hc
          simp only [Bool.or_eq_true, decide_eq_true_eq, not_or] at hc
          have step : Step ends (.quoted '"') [c] (Literal.escape cs ++ ['"']) (.quoted '"') :=
            .inQuote hc.2 (Ne.symm hl) fun he => absurd he hc.1
          exact step.quotingAfter?.trans (ih hcs)
  have opened : Step ends .plain ['"'] (Literal.escape cs ++ ['"']) (.quoted '"') :=
    .openQuote rfl (not_triple_of fun _ he => absurd he (by decide))
  rw [Shut, Literal.line, ← List.singleton_append, opened.quotingAfter?, inside]

/-- A block without triple quotes inside is closed by the first three single quotes after it. These
may begin with single quotes of its own, and then one may be left that opens a string. By induction.
-/
theorem settled_block (h : TripleFree cs)
    : Settled ends (Literal.block cs) := by
  have inside : ∃ q, q ≠ .block ∧ quotingAfter? ends .block (cs ++ tripleQuote) = some q := by
    induction cs with
    | nil => exact ⟨.plain, nofun, rfl⟩
    | cons c cs ih =>
        rcases h.cases [] with he | he | he | ⟨d, ds, he, hd, hne⟩
        · cases he
        · rw [he]
          exact ⟨.quoted '\'', nofun, rfl⟩
        · rw [he]
          exact ⟨.plain, nofun, rfl⟩
        · obtain ⟨rfl, rfl⟩ := List.cons.inj he
          obtain ⟨q, hq, hr⟩ := ih hd
          rw [List.append_nil] at hne
          have step : Step ends .block [c] (cs ++ tripleQuote) .block := by
            refine .inBlock ?_
            rintro ⟨es, hes⟩
            exact hne es hes.symm
          exact ⟨q, hq, step.quotingAfter?.trans hr⟩
  obtain ⟨q, hq, hr⟩ := inside
  refine settled_of_quotingAfter? hq ?_
  have opened : Step ends .plain tripleQuote (cs ++ tripleQuote) .block := .openBlock _
  rw [Literal.block, List.append_assoc]
  exact opened.quotingAfter?.trans hr

/-- Signs that end a line end a constraint as well. -/
theorem endsText_of_endsPart {c : Char} (h : endsPart c = false)
    : endsText c = false := by
  rw [endsPart, Bool.or_eq_false_iff] at h
  exact h.2

/-- A written note leaves no block open. -/
theorem settled_noteText {note : String} (h : PlainNote note)
    : Settled endsPart (noteText note).toList := by
  have hkey (after : List Char)
      : Leads endsPart after .plain ['N', 'o', 't', 'e', ':', ' '] .plain :=
    leads_plain rfl
  rw [toList_noteText, Literal.toList_encode]
  split
  · rename_i hl
    exact (hkey _).append_settled (settled_block (h hl))
  · rename_i hl
    exact ((hkey _).append_shut (shut_line hl)).settled

end
end SchemaMarkup.Markup
