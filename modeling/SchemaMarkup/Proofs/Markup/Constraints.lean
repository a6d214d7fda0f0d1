import SchemaMarkup.Proofs.Markup.Shut

/-! Constraints. Joined with commas and cut again outside of quotes, the constraints of a field
and its note come back one by one.
-/

namespace SchemaMarkup.Markup

open Text

/-- Whether a character separates constraints. -/
abbrev isComma (c : Char) : Bool :=
  c = ','

/-- A comma outside of quotes ends the part. -/
theorem partsAfter_comma (part cs : List Char)
    : partsAfter isComma part .plain (',' :: cs)
      = part.reverse :: partsAfter isComma [] .plain cs := by
  rw [partsAfter]
  · rfl
  · intro cs' he
    exact absurd he (by decide)

/-- Where a text leads without ending a part, its characters join the part. -/
theorem Step.partsAfter {q q' : Quoting} {w rest : List Char} (h : Step endsPart q w rest q')
    (part : List Char)
    : partsAfter isComma part q (w ++ rest)
      = Markup.partsAfter isComma (w.reverse ++ part) q' rest := by
  cases h with
  | openBlock => rfl
  | closeBlock => rfl
  | inBlock open_ =>
      rw [List.singleton_append, Markup.partsAfter]
      · rfl
      · exact of_not_triple open_
  | openQuote quote single =>
      rw [List.singleton_append, Markup.partsAfter, if_pos quote]
      · rfl
      · exact of_not_triple single
  | @closeQuote q quote =>
      have hcomma : isComma q = false := by
        rw [isComma, decide_eq_false_iff_not]
        rintro rfl
        cases quote
      rw [List.singleton_append, Markup.partsAfter, if_pos rfl, if_neg (by simp [hcomma])]
      · rfl
      · exact fun _ _ he => absurd he (ne_of_isQuote quote).1
  | escaped => rfl
  | inQuote open_ line bare =>
      rw [List.singleton_append, Markup.partsAfter, if_neg open_]
      · rfl
      · intro d ds hc hr
        rw [bare hc] at hr
        cases hr
  | @plain c rest unquoted goesOn noComment =>
      simp only [endsPart, Bool.or_eq_false_iff] at goesOn
      rw [List.singleton_append, Markup.partsAfter, if_neg (by simp [unquoted]),
        if_neg (by simp [goesOn.1])]
      · rfl
      · rintro ds rfl
        cases unquoted

theorem Leads.partsAfter {q q' : Quoting} {cs rest : List Char}
    (h : Leads endsPart rest q cs q') (part : List Char)
    : partsAfter isComma part q (cs ++ rest)
      = Markup.partsAfter isComma (cs.reverse ++ part) q' rest := by
  induction h generalizing part with
  | nil => rfl
  | cons step _ ih =>
      rw [List.append_assoc, step.partsAfter, ih, List.reverse_append, List.append_assoc]

/-- Whether a text goes on with a comma or with white space, if it goes on at all. -/
def Seam (rest : List Char) : Prop :=
  ∀ c ∈ rest.head?, c = ',' ∨ isBlank c = true

/-- Whether a text, before a seam, is not cut and leads from one quoting to another. -/
def Uncut (q : Quoting) (cs : List Char) (q' : Quoting) : Prop :=
  ∀ begun rest, Seam rest →
    partsAfter isComma begun q (cs ++ rest) = partsAfter isComma (cs.reverse ++ begun) q' rest

theorem seam_comma (rest : List Char)
    : Seam (',' :: rest) :=
  fun _ hc => .inl (Option.some.inj hc).symm

/-- A seam begins neither with a quote, nor with a slash, nor with a backslash. -/
theorem Seam.unquoted {c : Char} {rest : List Char} (h : Seam (c :: rest))
    : Literal.isQuote c = false ∧ c ≠ '/' ∧ c ≠ '\\' := by
  rcases h c rfl with rfl | hb
  · decide
  · exact ⟨(unquoted_of_isBlank hb).1, (unquoted_of_isBlank hb).2, by rintro rfl; cases hb⟩

theorem Seam.apart {rest : List Char} (h : Seam rest)
    : Apart rest := by
  cases rest with
  | nil => exact apart_nil
  | cons c rest =>
      refine apart_cons ⟨?_, h.unquoted.2.1⟩
      rintro rfl
      cases h.unquoted.1

theorem Shut.uncut {cs : List Char} (h : Shut endsPart cs)
    : Uncut .plain cs .plain :=
  fun begun _ seam => (h.leads seam.apart).partsAfter begun

/-- A text in which nothing ends a part is one part. -/
theorem Settled.partsAfter_eq {cs : List Char} (h : Settled endsPart cs) (begun : List Char)
    : partsAfter isComma begun .plain cs = [begun.reverse ++ cs] := by
  obtain ⟨q, _, hq⟩ := settled_iff.mp h
  have hcut := hq.partsAfter begun
  rwa [List.append_nil, partsAfter_nil, List.reverse_append, List.reverse_reverse] at hcut

/-- Joined parts are cut at the commas, by induction on the parts after the first. The last one
may leave a string open.
-/
theorem partsAfter_intercalate {p : String} {parts : List String}
    (whole : ∀ d ∈ p :: parts, ∀ begun,
      partsAfter isComma begun .plain d.toList = [begun.reverse ++ d.toList])
    (closed : (p :: parts).Pairwise fun d _ => Uncut .plain d.toList .plain)
    (begun : List Char)
    : partsAfter isComma begun .plain (", ".intercalate (p :: parts)).toList
      = (begun.reverse ++ p.toList) :: parts.map fun d => ' ' :: d.toList := by
  induction parts generalizing p begun with
  | nil => simpa using whole p List.mem_cons_self begun
  | cons d parts ih =>
      obtain ⟨first, others⟩ := List.pairwise_cons.mp closed
      have later := ih (fun e he => whole e (List.mem_cons_of_mem p he)) others [' ']
      have hspace (cs : List Char) : partsAfter isComma [] .plain (' ' :: cs)
          = partsAfter isComma [' '] .plain cs :=
        (Step.plain (c := ' ') rfl rfl fun he => absurd he (by decide)).partsAfter []
      have htext : (", ".intercalate (p :: d :: parts)).toList
          = p.toList ++ ',' :: ' ' :: (", ".intercalate (d :: parts)).toList := by
        rw [String.intercalate_cons_cons]
        simp
      rw [htext, first d List.mem_cons_self _ _ (seam_comma _), partsAfter_comma, hspace, later]
      simp

/-- Whether parts come back when they are joined with commas and cut again: none of them is padded
or cut by itself, and those before another one leave no string open.
-/
structure Rejoinable (parts : List String) : Prop where
  trimmed : ∀ p ∈ parts, p ≠ "" ∧ IsTrimmed p.toList
  whole : ∀ p ∈ parts, ∀ begun,
    partsAfter isComma begun .plain p.toList = [begun.reverse ++ p.toList]
  closed : parts.Pairwise fun p _ => Uncut .plain p.toList .plain

/-- Trimmed parts joined with commas come back one by one. -/
theorem Rejoinable.splitCommas_intercalate {parts : List String} (h : Rejoinable parts)
    : splitCommas (", ".intercalate parts) = parts := by
  cases parts with
  | nil => rfl
  | cons p parts =>
      have hcut := partsAfter_intercalate h.whole h.closed []
      have htrim : ((p.toList :: parts.map fun d => ' ' :: d.toList).map trim)
          = (p :: parts).map String.toList := by
        rw [List.map_cons, List.map_cons, List.map_map,
          (h.trimmed p List.mem_cons_self).2.trim_eq]
        refine congrArg _ (List.map_congr_left ?_)
        intro d hd
        exact (h.trimmed d (List.mem_cons_of_mem p hd)).2.trim_eq
      have hfilter : ((p :: parts).map String.toList).filter (· ≠ [])
          = (p :: parts).map String.toList := by
        rw [List.filter_eq_self]
        intro cs hm
        obtain ⟨d, hd, rfl⟩ := List.mem_map.mp hm
        simpa using (h.trimmed d hd).1
      rw [splitCommas, splitOutsideQuotes, hcut, List.reverse_nil, List.nil_append, htrim, hfilter,
        List.map_map]
      exact (List.map_congr_left fun d _ => String.ofList_toList).trans (List.map_id _)

-----------------------------------------------------------------------------------------
-- Cutting any text
-----------------------------------------------------------------------------------------

/-- A step through a text is one through a part of it, unless it goes over a comma. -/
theorem Step.part_or_comma {q q' : Quoting} {w rest : List Char} (h : Step endsText q w rest q')
    : Step endsPart q w rest q' ∨ w = [','] ∧ q = .plain ∧ q' = .plain := by
  cases h with
  | openBlock => exact .inl (.openBlock rest)
  | closeBlock => exact .inl (.closeBlock rest)
  | inBlock open_ => exact .inl (.inBlock open_)
  | openQuote quote single => exact .inl (.openQuote quote single)
  | closeQuote quote => exact .inl (.closeQuote quote rest)
  | escaped q c => exact .inl (.escaped q c rest)
  | inQuote open_ line bare => exact .inl (.inQuote open_ line bare)
  | @plain c rest unquoted goesOn noComment =>
      by_cases hc : c = ','
      · exact .inr ⟨by rw [hc], rfl, rfl⟩
      · exact .inl (.plain unquoted (by simp [endsPart, hc, goesOn]) noComment)

/-- The parts of a text but the last close their strings, and the last one leads where the text
leads, by induction on the steps through the text.
-/
theorem partsAfter_shut {q q' : Quoting} {cs : List Char} (h : Leads endsText [] q cs q')
    {part : List Char} (hp : Leads endsPart cs .plain part.reverse q)
    : ∃ init last, partsAfter isComma part q cs = init ++ [last]
        ∧ (∀ p ∈ init, Shut endsPart p) ∧ Leads endsPart [] .plain last q' := by
  induction h generalizing part with
  | nil q => exact ⟨[], part.reverse, partsAfter_nil _ _ _, nofun, hp⟩
  | @cons q q₁ q₂ w cs step _ ih =>
      rw [List.append_nil] at step
      rcases step.part_or_comma with hstep | ⟨rfl, rfl, rfl⟩
      · have hnext : Leads endsPart cs .plain (w.reverse ++ part).reverse q₁ := by
          rw [List.reverse_append, List.reverse_reverse]
          exact hp.append hstep.leads
        rw [hstep.partsAfter]
        exact ih hnext
      · have begun : Leads endsPart cs .plain ([] : List Char).reverse .plain := .nil .plain
        obtain ⟨init, last, he, hi, hl⟩ := ih begun
        refine ⟨part.reverse :: init, last, ?_, List.forall_mem_cons.mpr ⟨hp.shut, hi⟩, hl⟩
        rw [List.singleton_append, partsAfter_comma, he]
        rfl

/-- What a text is cut into is neither empty nor padded. -/
theorem trimmed_of_mem_splitCommas {s c : String} (h : c ∈ splitCommas s)
    : c ≠ "" ∧ IsTrimmed c.toList := by
  obtain ⟨cs, hcs, rfl⟩ := List.mem_map.mp h
  obtain ⟨hm, hne⟩ := List.mem_filter.mp hcs
  obtain ⟨part, _, rfl⟩ := List.mem_map.mp hm
  refine ⟨?_, ?_⟩
  · simpa using hne
  · rw [String.toList_ofList]
    exact isTrimmed_trim part

/-- Whether constraints, joined with commas, are cut at the commas: all of them but the last one
close the strings that they open, and the last one leaves no block open.
-/
def Separable (constraints : List String) : Prop :=
  (∀ c ∈ constraints.dropLast, Shut endsPart c.toList)
    ∧ ∀ c ∈ constraints.getLast?, Settled endsPart c.toList

instance (constraints : List String) : Decidable (Separable constraints) :=
  inferInstanceAs (Decidable (_ ∧ _))

theorem separable_concat {init : List String} {last : String}
    : Separable (init ++ [last])
      ↔ (∀ c ∈ init, Shut endsPart c.toList) ∧ Settled endsPart last.toList := by
  simp [Separable]

theorem separable_of_shut {constraints : List String}
    (h : ∀ c ∈ constraints, Shut endsPart c.toList)
    : Separable constraints :=
  ⟨fun c hc => h c (List.dropLast_subset _ hc),
    fun c hc => (h c (List.mem_of_mem_getLast? hc)).settled⟩

theorem Separable.rejoinable {constraints : List String} (h : Separable constraints)
    (trimmed : ∀ c ∈ constraints, c ≠ "" ∧ IsTrimmed c.toList)
    : Rejoinable constraints := by
  rcases List.eq_nil_or_concat' constraints with rfl | ⟨init, last, rfl⟩
  · exact ⟨trimmed, nofun, .nil⟩
  · obtain ⟨hi, hl⟩ := separable_concat.mp h
    have closed (c : String) (hc : c ∈ init) : Uncut .plain c.toList .plain := (hi c hc).uncut
    refine ⟨trimmed, List.forall_mem_append.mpr ⟨fun c hc => (hi c hc).settled.partsAfter_eq,
      List.forall_mem_singleton.mpr hl.partsAfter_eq⟩, List.pairwise_append.mpr ⟨?_, ?_, ?_⟩⟩
    · exact List.pairwise_of_forall_mem_list fun c hc _ _ => closed c hc
    · exact List.pairwise_singleton _ _
    · exact fun c hc _ _ => closed c hc

theorem separable_append {init last : List String} (hi : ∀ c ∈ init, Shut endsPart c.toList)
    (hl : ∀ c ∈ last, Settled endsPart c.toList) (one : last.length ≤ 1)
    : Separable (init ++ last) := by
  match last with
  | [] =>
      rw [List.append_nil]
      exact separable_of_shut hi
  | [c] => exact separable_concat.mpr ⟨hi, hl c List.mem_cons_self⟩

/-- What a text that leaves no block open is cut into can be joined and cut again, also if some of
it is left out.
-/
theorem separable_splitCommas {s : String} (h : Settled endsText s.toList) (kept : String → Bool)
    : Separable ((splitCommas s).filter kept) := by
  obtain ⟨q, hq, hs⟩ := settled_iff.mp h
  have begun : Leads endsPart s.toList .plain ([] : List Char).reverse .plain := .nil .plain
  obtain ⟨init, last, he, hi, hl⟩ := partsAfter_shut hs begun
  have hinit (c : String)
      (hc : c ∈ (((init.map trim).filter (· ≠ [])).map String.ofList).filter kept)
      : Shut endsPart c.toList := by
    obtain ⟨cs, hcs, rfl⟩ := List.mem_map.mp (List.mem_of_mem_filter hc)
    obtain ⟨part, hp, rfl⟩ := List.mem_map.mp (List.mem_of_mem_filter hcs)
    rw [String.toList_ofList]
    exact quotingAfter?_trim (hi part hp)
  have hlast (c : String)
      (hc : c ∈ ((([last].map trim).filter (· ≠ [])).map String.ofList).filter kept)
      : Settled endsPart c.toList := by
    obtain ⟨cs, hcs, rfl⟩ := List.mem_map.mp (List.mem_of_mem_filter hc)
    obtain ⟨part, hp, rfl⟩ := List.mem_map.mp (List.mem_of_mem_filter hcs)
    obtain rfl := List.mem_singleton.mp hp
    rw [String.toList_ofList]
    exact settled_of_quotingAfter? hq (quotingAfter?_trim hl.quotingAfter?_eq)
  rw [splitCommas, splitOutsideQuotes, he, List.map_append, List.filter_append, List.map_append,
    List.filter_append]
  refine separable_append hinit hlast ((List.length_filter_le _ _).trans ?_)
  rw [List.length_map]
  exact List.length_filter_le _ _

end SchemaMarkup.Markup
