import SchemaMarkup.Markup.FieldLine
import SchemaMarkup.Proofs.Markup.Constraints
import SchemaMarkup.Proofs.Markup.Headings

/-! Field lines. The line of a plain field is read back as that field, and it is taken neither
for a note nor for a reference.
-/

namespace SchemaMarkup

open Text Markup

namespace Markup

/-- Whether a type is read back as it is written. -/
structure PlainType (type : String) : Prop where
  nonempty : type ≠ ""
  trimmed : Text.trimmed type = type
  chars : ∀ c ∈ type.toList, c ∉ ['[', '\x7b', '\x7d', ':', '"', '\'', '\n']
  noComment : ¬ ['/', '/'] <:+: type.toList

/-- Whether a constraint is read back as it is written. -/
structure PlainConstraint (constraint : String) : Prop where
  nonempty : constraint ≠ ""
  trimmed : Text.trimmed constraint = constraint
  noNote : noteValue? constraint = none
  runs : closesQuotes false constraint.toList = true

instance (type : String) : Decidable (PlainType type) :=
  decidable_of_iff (type ≠ "" ∧ Text.trimmed type = type
      ∧ type.toList.all (· ∉ ['[', '\x7b', '\x7d', ':', '"', '\'', '\n']) = true
      ∧ ¬ ['/', '/'] <:+: type.toList)
    ⟨fun h => ⟨h.1, h.2.1, by simpa using h.2.2.1, h.2.2.2⟩,
      fun h => ⟨h.nonempty, h.trimmed, by simpa using h.chars, h.noComment⟩⟩

instance (constraint : String) : Decidable (PlainConstraint constraint) :=
  decidable_of_iff (constraint ≠ "" ∧ Text.trimmed constraint = constraint
      ∧ noteValue? constraint = none ∧ closesQuotes false constraint.toList = true)
    ⟨fun h => ⟨h.1, h.2.1, h.2.2.1, h.2.2.2⟩,
      fun h => ⟨h.nonempty, h.trimmed, h.noNote, h.runs⟩⟩

end Markup

/-- Whether a field is read back as it is written. A field of the bare name `Note` is not, since
its line would be passed over.
-/
structure Field.Plain (f : Field) : Prop where
  name : PlainName f.name
  notNote : f.name ≠ "Note"
  type : PlainType f.type
  note : ∀ n ∈ f.note, PlainNote n
  constraints : ∀ c ∈ f.constraints, PlainConstraint c

instance (f : Field) : Decidable f.Plain :=
  decidable_of_iff (PlainName f.name ∧ f.name ≠ "Note" ∧ PlainType f.type
      ∧ (∀ n ∈ f.note, PlainNote n) ∧ ∀ c ∈ f.constraints, PlainConstraint c)
    ⟨fun h => ⟨h.1, h.2.1, h.2.2.1, h.2.2.2.1, h.2.2.2.2⟩,
      fun h => ⟨h.name, h.notNote, h.type, h.note, h.constraints⟩⟩

/-- Whether the line of a field is read back. That it is one line, and neither a note nor a
reference, is said of what is written.
-/
structure Field.Legible (f : Field) : Prop where
  name : IsName f.name
  notNote : f.name ≠ "Note"
  trimmed : IsTrimmed f.type.toList
  unbracketed : '[' ∉ f.type.toList
  said : f.type ≠ "" ∨ f.allConstraints ≠ []
  constraints : ∀ c ∈ f.constraints, c ≠ "" ∧ IsTrimmed c.toList ∧ noteValue? c = none
  separable : Separable f.allConstraints
  line : EndsLine f.toText.toList
  noRef : Ref.ofLine? f.toText = none
  noNote : noteValue? f.toText = none

namespace Markup

theorem isTrimmed_of_trimmed {s : String} (h : Text.trimmed s = s)
    : IsTrimmed s.toList := by
  rw [← trim_eq_self_iff]
  have ht := congrArg String.toList h
  rwa [Text.trimmed, String.toList_ofList] at ht

theorem toList_ne_nil {s : String} (h : s ≠ "")
    : s.toList ≠ [] :=
  fun he => h (String.toList_eq_nil_iff.mp he)

/-- A word holds neither a colon nor a bracket. -/
theorem colonFree_word {name : String} (h : isWordText name = true) {rest : List Char}
    (hr : ColonFree rest)
    : ColonFree (name.toList ++ rest) := by
  have hw := (isWordText_iff.mp h).2
  refine hr.append ?_ ?_
  · exact fun hm => ne_of_isWord (hw _ hm) (by decide : isWord ':' = false) rfl
  · exact fun hm => ne_of_isWord (hw _ hm) (by decide : isWord '[' = false) rfl

/-- A line that begins with a written name is no note, unless a colon follows. -/
theorem noteValue?_writeName {name line : String} {rest : List Char}
    (hl : line.toList = (writeName name).toList ++ rest) (hr : ColonFree rest)
    : noteValue? line = none := by
  rcases toList_writeName name with ⟨hw, he⟩ | he
  · refine noteValue?_of_colonFree ?_
    rw [hl, he]
    exact colonFree_word hw hr
  · rw [noteValue?, hl, he]
    rfl

/-- A text that begins with a written name starts with no reference, unless a colon follows. -/
theorem scanRef_writeName (name : String) {rest : List Char} (hr : ColonFree rest)
    : scanRef ((writeName name).toList ++ rest) = none := by
  rcases toList_writeName name with ⟨hw, he⟩ | he
  · rw [he]
    exact scanRef_of_colonFree (colonFree_word hw hr)
  · rw [he, List.cons_append]
    exact scanRef_eq_none (by decide) _

/-- What stands after the type of a written field: nothing, or its constraints in brackets. -/
inductive Bracketed (constraints : List Char) : List Char → Prop
  | none (empty : constraints = []) : Bracketed constraints []
  | some : Bracketed constraints (' ' :: '[' :: (constraints ++ [']']))

/-- Before brackets, the type ends where the first bracket opens, perhaps after a blank. -/
theorem takeWhile_type {type : List Char} (ht : '[' ∉ type) {constraints rest : List Char}
    (hb : Bracketed constraints rest)
    : ∃ gap, (∀ c ∈ gap, isBlank c = true)
        ∧ (type ++ rest).takeWhile (· ≠ '[') = type ++ gap
        ∧ (type ++ rest).dropWhile (· ≠ '[') = rest.dropWhile (· ≠ '[') := by
  have hp : ∀ c ∈ type, decide (c ≠ '[') = true := by
    intro c hc
    simp only [decide_eq_true_eq]
    intro he
    subst he
    exact ht hc
  rw [List.takeWhile_append_of_pos hp, List.dropWhile_append_of_pos hp]
  cases hb with
  | none => exact ⟨[], by simp, by simp, rfl⟩
  | some => exact ⟨[' '], List.all_eq_true.mp rfl, by simp, rfl⟩

/-- What is left of written constraints is taken apart at their closing bracket. -/
theorem closedBracket?_written (constraints : List Char)
    : closedBracket? (constraints ++ [']']) = some constraints := by
  rw [closedBracket?, List.reverse_append]
  simp

/-- A written field line is taken apart into its name, its type and its constraints. The type may be
missing before constraints.
-/
theorem fieldParts?_written {name : String} (hn : IsName name) {type : List Char}
    (ht : IsTrimmed type) (hbracket : '[' ∉ type) {constraints rest : List Char}
    (hb : Bracketed constraints rest) (said : type ≠ [] ∨ rest ≠ [])
    : fieldParts? ((writeName name).toList ++ ' ' :: (type ++ rest))
      = some ⟨(writeName name).toList, type, constraints⟩ := by
  have hspace : ∀ d ∈ (' ' :: (type ++ rest)).head?, isWord d = false := by
    intro d hd
    obtain rfl := Option.some.inj hd
    decide
  have hopen : (' ' :: '[' :: (constraints ++ [']'])).dropWhile (· ≠ '[')
      = '[' :: (constraints ++ [']']) := rfl
  cases type with
  | nil =>
      cases hb with
      | none => simp at said
      | some =>
          have hgap : (' ' :: ' ' :: '[' :: (constraints ++ [']'])).takeWhile isBlank = [' ', ' ']
              ∧ (' ' :: ' ' :: '[' :: (constraints ++ [']'])).dropWhile isBlank
                = '[' :: (constraints ++ [']']) :=
            ⟨rfl, rfl⟩
          rw [List.nil_append] at hspace ⊢
          simp only [fieldParts?, Scan.name_writeName hn hspace, Option.bind_eq_bind,
            Option.bind_some, hgap.1, hgap.2]
          simp [closedBracket?_written, trim, trimLeft, trimRight]
  | cons c cs =>
      have hvisible : isBlank c = false := ht.1 c rfl
      have hgap : (' ' :: (c :: cs ++ rest)).takeWhile isBlank = [' ']
          ∧ (' ' :: (c :: cs ++ rest)).dropWhile isBlank = c :: cs ++ rest := by
        simp [hvisible, show isBlank ' ' = true from rfl]
      obtain ⟨gap, hblank, htake, hdrop⟩ := takeWhile_type hbracket hb
      have hnil : ∀ c ∈ ([] : List Char), isBlank c = true := List.forall_mem_nil _
      have htype := ht.trim_padded hnil hblank
      rw [List.nil_append] at htype
      have hne : (c :: cs ++ gap).isEmpty = false := rfl
      simp only [fieldParts?, Scan.name_writeName hn hspace, Option.bind_eq_bind, Option.bind_some,
        hgap.1, hgap.2, htake, hdrop, htype, hne]
      cases hb with
      | none empty =>
          subst empty
          rfl
      | some =>
          rw [hopen]
          simp [closedBracket?_written]

end Markup

namespace Field

/-- The written constraints of a field, without their brackets. -/
def inner (f : Field) : String :=
  ", ".intercalate f.allConstraints

/-- What stands after the type of a field. -/
def bracketed (f : Field) : List Char :=
  if f.allConstraints = [] then [] else ' ' :: '[' :: (f.inner.toList ++ [']'])

/-- The characters of a field line. -/
theorem toList_toText (f : Field)
    : f.toText.toList = (writeName f.name).toList ++ ' ' :: (f.type.toList ++ f.bracketed) := by
  rw [toText, bracketed, inner]
  cases f.allConstraints with
  | nil => simp
  | cons c cs => simp

/-- The constraints of a field stand in brackets if there are any. -/
theorem bracketed_inner (f : Field)
    : Bracketed f.inner.toList f.bracketed := by
  rw [bracketed]
  split
  · rename_i h
    exact .none (by rw [inner, h]; rfl)
  · exact .some

/-- No colon stands before the constraints of a field. -/
theorem colonFree_type {f : Field} (h : PlainType f.type)
    : ColonFree (' ' :: (f.type.toList ++ f.bracketed)) := by
  have hb : ColonFree f.bracketed := by
    rw [bracketed]
    split
    · exact List.not_mem_nil
    · simp [ColonFree]
  have ht : ColonFree (f.type.toList ++ f.bracketed) :=
    hb.append (fun hm => h.chars _ hm (by decide)) (fun hm => h.chars _ hm (by decide))
  exact ht.append (p := [' ']) (by decide) (by decide)

/-- A field line ends with its type or with a bracket. -/
theorem getLast_type {f : Field} (said : f.type ≠ "" ∨ f.allConstraints ≠ []) {c : Char}
    (hc : c ∈ (' ' :: (f.type.toList ++ f.bracketed)).getLast?)
    : c ∈ f.type.toList.getLast? ∨ c = ']' := by
  rw [← List.cons_append, bracketed] at hc
  split at hc
  · rename_i hn
    have ht := said.resolve_right (not_not.mpr hn)
    rw [List.append_nil, ← List.singleton_append,
      List.getLast?_append_of_ne_nil _ (toList_ne_nil ht)] at hc
    exact .inl hc
  · have hb : ' ' :: '[' :: (f.inner.toList ++ [']']) = (' ' :: '[' :: f.inner.toList) ++ [']'] :=
      rfl
    rw [hb, ← List.append_assoc, List.getLast?_concat] at hc
    exact .inr (Option.some.inj hc).symm

theorem noteValue?_toText {f : Field} (h : f.Plain)
    : noteValue? f.toText = none :=
  noteValue?_writeName f.toList_toText (colonFree_type h.type)

theorem scanRef_toText {f : Field} (h : PlainType f.type)
    : scanRef f.toText.toList = none := by
  rw [toList_toText]
  exact scanRef_writeName f.name (colonFree_type h)

theorem ref?_toText {f : Field} (h : f.Plain)
    : Ref.ofLine? f.toText = none := by
  rw [Ref.ofLine?, scanRef_toText h.type]
  rfl

namespace Legible

variable {f : Field}

/-- The constraints of a field and its note are neither empty nor padded. -/
theorem allConstraints_trimmed (h : f.Legible) {c : String} (hc : c ∈ f.allConstraints)
    : c ≠ "" ∧ IsTrimmed c.toList := by
  rcases List.mem_append.mp hc with hc | hc
  · exact ⟨(h.constraints c hc).1, (h.constraints c hc).2.1⟩
  · obtain ⟨note, _, rfl⟩ := Option.map_eq_some_iff.mp (Option.mem_toList.mp hc)
    exact ⟨noteText_ne_empty note, isTrimmed_noteText note⟩

/-- The constraints of a field and its note are cut where they were joined. -/
theorem splitCommas_inner (h : f.Legible)
    : splitCommas f.inner = f.allConstraints :=
  (h.separable.rejoinable fun _ => h.allConstraints_trimmed).splitCommas_intercalate

/-- The last note among the constraints of a field is its note. -/
theorem lastNote_allConstraints (h : f.Legible)
    : lastNote f.allConstraints = f.note := by
  rw [lastNote, allConstraints]
  cases f.note with
  | none =>
      rw [Option.map_none, Option.toList_none, List.append_nil, List.findSome?_eq_none_iff]
      exact fun c hc => (h.constraints c (List.mem_reverse.mp hc)).2.2
  | some note => simp [noteValue?_noteText]

/-- The constraints of a field that are no notes are all but its note. -/
theorem filter_allConstraints (h : f.Legible)
    : f.allConstraints.filter (fun c => (noteValue? c).isNone) = f.constraints := by
  have hc : f.constraints.filter (fun c => (noteValue? c).isNone) = f.constraints := by
    rw [List.filter_eq_self]
    intro c hc
    rw [(h.constraints c hc).2.2]
    rfl
  rw [allConstraints, List.filter_append, hc]
  cases f.note with
  | none => simp
  | some note => simp [noteValue?_noteText]

end Legible

/-- The written form of a name is not the bare word `Note`, unless the name is. -/
theorem writeName_ne_note {name : String} (h : name ≠ "Note")
    : (writeName name).toList ≠ ['N', 'o', 't', 'e'] := by
  intro hn
  rcases toList_writeName name with ⟨_, he⟩ | he
  · exact h (String.toList_inj.mp (he.symm.trans hn))
  · rw [he] at hn
    exact absurd (List.cons.inj hn).1 (by decide)

/-- The line of a legible field is read back. -/
theorem Legible.ofLine?_toText {f : Field} (h : f.Legible)
    : Field.ofLine? f.toText = some f := by
  have said : f.type.toList ≠ [] ∨ f.bracketed ≠ [] := by
    refine h.said.imp toList_ne_nil fun hc => ?_
    rw [bracketed, if_neg hc]
    exact List.cons_ne_nil _ _
  have hparts := fieldParts?_written h.name h.trimmed h.unbracketed f.bracketed_inner said
  rw [← toList_toText] at hparts
  simp only [Field.ofLine?, hparts, Option.bind_eq_bind, Option.bind_some,
    writeName_ne_note h.notNote, if_false, String.ofList_toList, readName_writeName,
    h.splitCommas_inner, h.lastNote_allConstraints, h.filter_allConstraints]
  rfl

end Field

-----------------------------------------------------------------------------------------
-- Where a field line ends
-----------------------------------------------------------------------------------------

/-- Constraints joined with commas end their line if the last one does, by induction on the
others.
-/
theorem Markup.endsLine_intercalate {init : List String} {last : String} {t : List Char}
    (hi : ∀ c ∈ init, Shut endsPart c.toList) (hl : EndsLine (last.toList ++ t))
    : EndsLine ((", ".intercalate (init ++ [last])).toList ++ t) := by
  induction init with
  | nil => simpa using hl
  | cons c init ih =>
      have hc := (hi c List.mem_cons_self).mono fun _ => endsText_of_endsPart
      have hsep (after : List Char) : Leads endsText after .plain ", ".toList .plain :=
        leads_plain rfl
      have hrest := (hsep _).append_endsLine (ih fun d hd => hi d (List.mem_cons_of_mem c hd))
      have htext : (", ".intercalate (c :: (init ++ [last]))).toList ++ t
          = c.toList ++ (", ".toList ++ ((", ".intercalate (init ++ [last])).toList ++ t)) := by
        rw [String.intercalate_cons_of_ne_nil (by simp)]
        simp
      rw [List.cons_append, htext]
      exact (hc.leads (apart_cons (by decide))).append_endsLine hrest

namespace Field

/-- The constraints of a field end its line together with their bracket if they can be cut again. -/
theorem endsLine_inner {f : Field} (h : Separable f.allConstraints) (hne : f.allConstraints ≠ [])
    : EndsLine (f.inner.toList ++ [']']) := by
  obtain ⟨init, last, he⟩ := (List.eq_nil_or_concat' f.allConstraints).resolve_left hne
  rw [he] at h
  obtain ⟨hi, hl⟩ := separable_concat.mp h
  have hbracket : Settled endsText (last.toList ++ [']']) :=
    (hl.mono fun _ => endsText_of_endsPart).concat rfl (by decide) rfl (by decide)
  rw [inner, he]
  exact endsLine_intercalate hi (hbracket.endsLine (by simp))

/-- The line of a field ends where its line feed stands if its name and its type close their
strings.
-/
theorem endsLine_toText {f : Field} (name : ClosedName f.name) (type : Shut endsText f.type.toList)
    (separable : Separable f.allConstraints)
    : EndsLine f.toText.toList := by
  have hname := name.shut_writeName.mono fun _ => endsText_of_endsPart
  have hspace (after : List Char) : Leads endsText after .plain [' '] .plain := leads_plain rfl
  have hopen (after : List Char) : Leads endsText after .plain [' ', '['] .plain := leads_plain rfl
  have htype : EndsLine (f.type.toList ++ f.bracketed) := by
    rw [bracketed]
    split
    · rw [List.append_nil]
      exact type.endsLine
    · rename_i hne
      exact (type.leads (apart_cons (by decide))).append_endsLine
        ((hopen _).append_endsLine (endsLine_inner separable hne))
  rw [toList_toText]
  exact (hname.leads (apart_cons (by decide))).append_endsLine ((hspace _).append_endsLine htype)

end Field

-----------------------------------------------------------------------------------------
-- Plain fields
-----------------------------------------------------------------------------------------

theorem Markup.PlainType.shut {type : String} (h : PlainType type)
    : Shut endsText type.toList := by
  refine shut_plain ?_ h.noComment
  intro c hc
  have hm := h.chars c hc
  simp only [List.mem_cons, List.not_mem_nil, or_false, not_or] at hm
  simp [Literal.isQuote, endsText, hm]

/-- The constraints of a plain field and its note are cut at the commas. -/
theorem Field.Plain.separable {f : Field} (h : f.Plain)
    : Separable f.allConstraints := by
  have shut : ∀ c ∈ f.constraints, Shut endsPart c.toList := fun c hc =>
    shut_of_closesQuotes (h.constraints c hc).runs
  rw [allConstraints]
  cases hn : f.note with
  | none =>
      rw [Option.map_none, Option.toList_none, List.append_nil]
      exact separable_of_shut shut
  | some note => exact separable_concat.mpr ⟨shut, settled_noteText (h.note note hn)⟩

/-- A plain field is legible. -/
theorem Field.Plain.legible {f : Field} (h : f.Plain)
    : f.Legible where
  name := h.name.isName
  notNote := h.notNote
  trimmed := isTrimmed_of_trimmed h.type.trimmed
  unbracketed hm := h.type.chars _ hm (by decide)
  said := .inl h.type.nonempty
  constraints c hc := ⟨(h.constraints c hc).nonempty,
    isTrimmed_of_trimmed (h.constraints c hc).trimmed, (h.constraints c hc).noNote⟩
  separable := h.separable
  line := endsLine_toText h.name.closed h.type.shut h.separable
  noRef := ref?_toText h
  noNote := noteValue?_toText h

end SchemaMarkup
