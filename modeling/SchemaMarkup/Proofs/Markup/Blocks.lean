import SchemaMarkup.Markup.Statement
import SchemaMarkup.Proofs.Markup.Lines

/-! Written blocks as tokens. The lines of a table are its heading, its note and its fields, the
lines of a group its heading, its members and its note, and a reference is one line; each is
read as the tokens it was written for.
-/

namespace SchemaMarkup

open Text Markup

namespace Field

/-- The line of a field begins with its name and ends with its type or a bracket. -/
theorem isTrimmed_toText {f : Field} (ht : IsTrimmed f.type.toList)
    (said : f.type ≠ "" ∨ f.allConstraints ≠ [])
    : IsTrimmed f.toText.toList := by
  rw [toList_toText]
  refine isTrimmed_append (fun c hc => visible_head_writeName hc) (writeName_ne_nil f.name) ?_
    (List.cons_ne_nil _ _)
  intro c hc
  rcases getLast_type said hc with hc | rfl
  · exact ht.2 c hc
  · decide

/-- A field line is not empty. -/
theorem toText_ne_empty (f : Field)
    : f.toText ≠ "" := by
  intro he
  have hl := f.toList_toText
  rw [he] at hl
  exact writeName_ne_nil f.name (List.append_eq_nil_iff.mp hl.symm).1

end Field

/-- A written name without quotes, backslashes and line feeds closes its quotes. -/
theorem Markup.PlainName.shut_writeName {name : String} (h : PlainName name)
    : Shut endsText (writeName name).toList :=
  h.closed.shut_writeName.mono fun _ => endsText_of_endsPart

/-- The line of a plain reference closes the quotes of its names. -/
theorem Ref.Plain.shut_toText {r : Ref} (h : r.Plain)
    : Shut endsText r.toText.toList := by
  have hkey (after : List Char) : Leads endsText after .plain ['R', 'e', 'f', ':', ' '] .plain :=
    leads_plain rfl
  have hdot (after : List Char) : Leads endsText after .plain ['.'] .plain := leads_plain rfl
  have hsymbol (after : List Char)
      : Leads endsText after .plain [' ', r.cardinality.symbol, ' '] .plain := by
    cases r.cardinality <;> exact leads_plain rfl
  have hname {name : String} {c : Char} (hn : PlainName name) (hc : c ≠ '\'' ∧ c ≠ '/')
      (cs : List Char)
      : Leads endsText (c :: cs) .plain (writeName name).toList .plain :=
    hn.shut_writeName.leads (apart_cons hc)
  have htarget := (hname h.targetTable (by decide) _).append_shut
    ((hdot _).append_shut h.targetField.shut_writeName)
  have hsource := (hname h.sourceField (by decide) _).append_shut ((hsymbol _).append_shut htarget)
  rw [r.toList_toText]
  exact (hkey _).append_shut
    ((hname h.sourceTable (by decide) _).append_shut ((hdot _).append_shut hsource))

/-- A reference line begins with its keyword and ends with a name. -/
theorem Ref.isTrimmed_toText (r : Ref)
    : IsTrimmed r.toText.toList := by
  have hname := getLast_append (isTrimmed_writeName r.targetField).2
    (writeName_ne_nil r.targetField)
  have hlast := hname ((writeName r.sourceTable).toList
    ++ '.' :: ((writeName r.sourceField).toList
      ++ ' ' :: r.cardinality.symbol :: ' ' :: ((writeName r.targetTable).toList ++ ['.'])))
  rw [r.toList_toText]
  refine isTrimmed_cons_append rfl ?_ (by simp)
  simpa only [List.append_assoc, List.cons_append, List.nil_append] using hlast

namespace Markup

theorem shut_tableHeading {name : String} (h : ClosedName name)
    : Shut endsText (tableHeading name).toList := by
  have hkey (after : List Char)
      : Leads endsText after .plain ['T', 'a', 'b', 'l', 'e', ' '] .plain :=
    leads_plain rfl
  rw [toList_tableHeading]
  exact (hkey _).append_shut (h.shut_writeName.mono fun _ => endsText_of_endsPart)

theorem isTrimmed_tableHeading (name : String)
    : IsTrimmed (tableHeading name).toList := by
  rw [toList_tableHeading]
  exact isTrimmed_cons_append rfl (isTrimmed_writeName name).2 (writeName_ne_nil name)

/-- A table heading is not empty. -/
theorem tableHeading_ne_empty (name : String)
    : tableHeading name ≠ "" := by
  intro he
  have hl := toList_tableHeading name
  rw [he] at hl
  cases hl

/-- The setting of a color opens no string, since a color holds only word characters after its
sign.
-/
theorem shut_colorSetting {color : Option String} (h : ∀ c ∈ color, IsColor c)
    : Shut endsText (colorSetting color).toList := by
  cases color with
  | none => exact shut_nil
  | some color =>
      have hopen (after : List Char) : Leads endsText after .plain " [color: ".toList .plain :=
        leads_plain rfl
      have hcolor : Shut endsText color.toList := by
        obtain ⟨sign, word, hs, hsign, _, hword⟩ := (h color rfl).split
        have hw := (shut_word hword).mono fun _ => endsText_of_endsPart
        rw [hs]
        rcases hsign with rfl | rfl
        · exact hw
        · exact Leads.append_shut (leads_plain rfl) hw
      rw [colorSetting_some (h color rfl), String.toList_append, String.toList_append,
        List.append_assoc]
      have hclosed : Shut endsText (color.toList ++ [']']) :=
        (hcolor.leads (apart_cons (by decide))).append_shut rfl
      exact (hopen _).append_shut hclosed

/-- A group heading closes the quotes of its name. -/
theorem shut_groupHeading {name : String} {color : Option String} (hn : ClosedName name)
    (hc : ∀ c ∈ color, IsColor c)
    : Shut endsText (groupHeading name color).toList := by
  have hkey (after : List Char)
      : Leads endsText after .plain
          ['T', 'a', 'b', 'l', 'e', 'G', 'r', 'o', 'u', 'p', ' '] .plain :=
    leads_plain rfl
  have apart : Apart (colorSetting color).toList := by
    cases color with
    | none => exact apart_nil
    | some color =>
        rw [colorSetting_some (hc color rfl), String.toList_append, String.toList_append]
        exact apart_cons (c := ' ') (by decide)
  have hname := ((hn.mono fun _ => endsText_of_endsPart).leads apart).append_shut
    (shut_colorSetting hc)
  rw [List.cons_append, List.append_assoc] at hname
  rw [toList_groupHeading]
  exact (hkey _).append_shut hname

/-- A group heading begins with its keyword and ends with a quote or a bracket. -/
theorem isTrimmed_groupHeading {name : String} {color : Option String}
    (hc : ∀ c ∈ color, IsColor c)
    : IsTrimmed (groupHeading name color).toList := by
  have hsetting : ∀ c ∈ ('"' :: (colorSetting color).toList).getLast?, isBlank c = false := by
    cases color with
    | none => exact getLast_concat (rfl : isBlank '"' = false) []
    | some color =>
        have hlast := getLast_concat (rfl : isBlank ']' = false)
          ('"' :: " [color: ".toList ++ color.toList)
        rw [colorSetting_some (hc color rfl)]
        simpa using hlast
  have hname := getLast_append hsetting (List.cons_ne_nil _ _) ('"' :: name.toList)
  rw [toList_groupHeading]
  exact isTrimmed_cons_append rfl hname (by simp)

/-- A group heading is not empty. -/
theorem groupHeading_ne_empty (name : String) (color : Option String)
    : groupHeading name color ≠ "" := by
  intro he
  have hl := toList_groupHeading name color
  rw [he] at hl
  cases hl

end Markup

/-- Whether a comment is read back as it is written. -/
structure Markup.PlainComment (comment : String) : Prop where
  nonempty : comment ≠ ""
  trimmed : Text.trimmed comment = comment
  oneLine : '\n' ∉ comment.toList

instance (comment : String) : Decidable (PlainComment comment) :=
  decidable_of_iff (comment ≠ "" ∧ Text.trimmed comment = comment ∧ '\n' ∉ comment.toList)
    ⟨fun h => ⟨h.1, h.2.1, h.2.2⟩, fun h => ⟨h.nonempty, h.trimmed, h.oneLine⟩⟩

/-- Whether a member is read back as it is written. -/
structure Member.Plain (m : Member) : Prop where
  table : PlainName m.table
  comment : ∀ c ∈ m.comment, PlainComment c

instance (m : Member) : Decidable m.Plain :=
  decidable_of_iff (PlainName m.table ∧ ∀ c ∈ m.comment, PlainComment c)
    ⟨fun h => ⟨h.1, h.2⟩, fun h => ⟨h.table, h.comment⟩⟩

/-- Whether a reference line is read back. -/
structure Ref.Legible (r : Ref) : Prop where
  named : r.Named
  line : EndsLine r.toText.toList

theorem Ref.Plain.legible {r : Ref} (h : r.Plain)
    : r.Legible :=
  ⟨h.named, h.shut_toText.endsLine⟩

/-- Whether a member line is read back. A comment after the name would be part of an open string. -/
structure Member.Legible (m : Member) : Prop where
  settled : Settled endsPart (writeName m.table).toList
  shut : m.comment ≠ none → Shut endsText (writeName m.table).toList
  comment : ∀ c ∈ m.comment, PlainComment c

theorem Member.Plain.legible {m : Member} (h : m.Plain)
    : m.Legible where
  settled := h.table.closed.shut_writeName.settled
  shut _ := h.table.shut_writeName
  comment := h.comment

/-- A written name that leaves no block open is one part of a list, commas and all. -/
theorem Markup.splitCommas_writeName {name : String} (h : Settled endsPart (writeName name).toList)
    : splitCommas (writeName name) = [writeName name] := by
  have alone : Separable ([] ++ [writeName name]) := separable_concat.mpr ⟨nofun, h⟩
  have trimmed : ∀ c ∈ [writeName name], c ≠ "" ∧ IsTrimmed c.toList :=
    List.forall_mem_singleton.mpr ⟨writeName_ne_empty name, isTrimmed_writeName name⟩
  simpa using (alone.rejoinable trimmed).splitCommas_intercalate

/-- The line of a legible member is one token that holds its comment. -/
theorem Member.reads_toText {m : Member} (h : m.Legible)
    : Reads ((indent ++ m.toText).toList ++ ['\n'])
        [.text (writeName m.table) m.comment 0] := by
  have htrim := isTrimmed_writeName m.table
  have hne := writeName_ne_empty m.table
  have hline : EndsLine (writeName m.table).toList :=
    (h.settled.mono fun _ => endsText_of_endsPart).endsLine fun hl =>
      absurd (getLast_writeName hl) (by decide)
  obtain ⟨table, comment⟩ := m
  cases comment with
  | none => exact reads_indented hline htrim hne
  | some comment =>
      have hc := h.comment comment rfl
      have htext : Member.toText ⟨table, some comment⟩ = writeName table ++ " // " ++ comment := by
        simp only [Member.toText]
        split
        · rename_i he
          cases he
        · rename_i he
          exact absurd (Option.some.inj he) hc.nonempty
        · rename_i he
          rw [Option.some.inj he]
      rw [htext]
      exact reads_commented (h.shut nofun) htrim hne (isTrimmed_of_trimmed hc.trimmed) hc.nonempty
        hc.oneLine

theorem Member.members_line {m : Member} (h : m.Legible)
    : BlockLine.members ⟨writeName m.table, m.comment⟩ = [m] := by
  have hline : (writeName m.table).toList = (writeName m.table).toList ++ [] := by simp
  have hn : noteValue? (writeName m.table) = none := noteValue?_writeName hline List.not_mem_nil
  simp [BlockLine.members, hn, splitCommas_writeName h.settled, readName_writeName]

end SchemaMarkup
