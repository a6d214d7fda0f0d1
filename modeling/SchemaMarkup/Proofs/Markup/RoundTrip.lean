import SchemaMarkup.Proofs.Markup.Blocks
import SchemaMarkup.Proofs.Markup.Declarations

/-! Writing and reading back. The text of a legible schema is read as that schema: every block and
every reference line makes the statement it was written for, and the statements in order make up
the schema. Plain schemas are legible.
-/

namespace SchemaMarkup

open Text Markup

section

variable {α β γ : Type} {xs : List α} {write : α → β}

/-- Elements that are read back as they were written come back in order. -/
theorem filterMap_map_eq_self {read : β → Option α} (h : ∀ x ∈ xs, read (write x) = some x)
    : (xs.map write).filterMap read = xs := by
  rw [List.filterMap_map]
  exact (List.filterMap_congr h).trans List.filterMap_some

/-- Elements that are read as something else are passed over. -/
theorem filterMap_map_eq_nil {read : β → Option γ} (h : ∀ x ∈ xs, read (write x) = none)
    : (xs.map write).filterMap read = [] := by
  rw [List.filterMap_map, List.filterMap_eq_nil_iff]
  exact h

end

/-- The line of a legible reference makes the statement of that reference. -/
theorem Ref.declares_toText {r : Ref} (h : r.Legible)
    : Declares (r.toText.toList ++ ['\n']) [.ref r] := by
  have hline := reads_line h.line r.isTrimmed_toText r.toText_ne_empty
  exact ⟨_, hline, fun _ _ => rfl, ofTokens_ref (Ref.ofLine?_toText h.named) none 0⟩

-----------------------------------------------------------------------------------------
-- Tables
-----------------------------------------------------------------------------------------

/-- Whether a table is read back as it is written. -/
structure Table.Plain (t : Table) : Prop where
  name : PlainName t.name
  note : ∀ n ∈ t.note, PlainNote n
  fields : ∀ f ∈ t.fields, f.Plain

instance (t : Table) : Decidable t.Plain :=
  decidable_of_iff (PlainName t.name ∧ (∀ n ∈ t.note, PlainNote n) ∧ ∀ f ∈ t.fields, f.Plain)
    ⟨fun h => ⟨h.1, h.2.1, h.2.2⟩, fun h => ⟨h.name, h.note, h.fields⟩⟩

/-- Whether the block of a table is read back. -/
structure Table.Legible (t : Table) : Prop where
  name : IsName t.name
  closed : ClosedName t.name
  note : ∀ n ∈ t.note, EndsLine (noteText n).toList
  fields : ∀ f ∈ t.fields, f.Legible

/-- A written note ends where its line does, since it ends in a quote. -/
theorem Markup.endsLine_noteText {note : String} (h : PlainNote note)
    : EndsLine (noteText note).toList :=
  ((settled_noteText h).mono fun _ => endsText_of_endsPart).endsLine fun hl =>
    absurd (isQuote_getLast_noteText hl) (by decide)

theorem Table.Plain.legible {t : Table} (h : t.Plain)
    : t.Legible where
  name := h.name.isName
  closed := h.name.closed
  note n hn := endsLine_noteText (h.note n hn)
  fields f hf := (h.fields f hf).legible

namespace Table

/-- The lines of the block of a table. -/
def body (t : Table) : List BlockLine :=
  t.note.toList.map (⟨noteText ·, none⟩) ++ t.fields.map (⟨·.toText, none⟩)

/-- The statement that the text of a table makes. -/
def statement (t : Table) : Statement :=
  .table t.name t.body

/-- The lines of a legible table are read as those of its block. -/
theorem reads_body {t : Table} (h : t.Legible)
    : Reads
        ((t.note.toList.map (fun note => indent ++ noteText note)
            ++ t.fields.map (fun f => indent ++ f.toText)).flatMap fun l => l.toList ++ ['\n'])
        (t.body.map BlockLine.token) := by
  rw [List.flatMap_append, body, List.map_append]
  refine Reads.append (reads_lines ?_) (reads_lines ?_)
  · intro note hn
    have he := h.note note (Option.mem_toList.mp hn)
    exact reads_indented he (isTrimmed_noteText note) (noteText_ne_empty note)
  · intro f hf
    have hp := h.fields f hf
    exact reads_indented hp.line (Field.isTrimmed_toText hp.trimmed hp.said)
      f.toText_ne_empty

/-- The text of a legible table makes the statement of that table. -/
theorem declares_toText {t : Table} (h : t.Legible)
    : Declares (t.toText.toList ++ ['\n']) [t.statement] := by
  have hd := declares_block (shut_tableHeading h.closed) (isTrimmed_tableHeading t.name)
    (tableHeading_ne_empty t.name) (ofLine?_tableHeading t.name) (reads_body h)
  rw [Statement.ofBlock?, tableHeading?_tableHeading h.name] at hd
  rw [t.toText_eq, statement]
  exact hd

theorem ofLine?_noteText (note : String)
    : Ref.ofLine? (noteText note) = none :=
  Ref.ofLine?_eq_none (toList_noteText note) (by decide)

/-- The note line of a table declares no field, and its field lines declare the fields. -/
theorem fields_body {t : Table} (h : t.Legible)
    : t.body.filterMap BlockLine.field? = t.fields := by
  have hnote : (t.note.toList.map (⟨noteText ·, none⟩)).filterMap BlockLine.field? = [] := by
    apply filterMap_map_eq_nil
    intro note _
    simp [BlockLine.field?, noteValue?_noteText]
  have hfields : (t.fields.map (⟨·.toText, none⟩)).filterMap BlockLine.field? = t.fields := by
    apply filterMap_map_eq_self
    intro f hf
    have hp := h.fields f hf
    simp [BlockLine.field?, BlockLine.ref?, hp.noRef, hp.noNote, hp.ofLine?_toText]
  rw [body, List.filterMap_append, hnote, hfields, List.nil_append]

/-- The note line of a table gives its note, and no field line does. -/
theorem note_body {t : Table} (h : t.Legible)
    : t.body.findSome? BlockLine.note? = t.note := by
  have hfields : (t.fields.map (⟨·.toText, none⟩)).findSome? BlockLine.note? = none := by
    rw [List.findSome?_map, List.findSome?_eq_none_iff]
    intro f hf
    have hp := h.fields f hf
    simp [BlockLine.note?, BlockLine.ref?, hp.noRef, hp.noNote]
  rw [body, List.findSome?_append, hfields, Option.or_none]
  cases t.note with
  | none => rfl
  | some note => simp [BlockLine.note?, BlockLine.ref?, ofLine?_noteText, noteValue?_noteText]

/-- No line of a legible table is a reference. -/
theorem refs_body {t : Table} (h : t.Legible)
    : t.body.filterMap BlockLine.ref? = [] := by
  rw [List.filterMap_eq_nil_iff]
  intro l hl
  rw [body, List.mem_append] at hl
  rcases hl with hl | hl
  · obtain ⟨note, _, rfl⟩ := List.mem_map.mp hl
    exact ofLine?_noteText note
  · obtain ⟨f, hf, rfl⟩ := List.mem_map.mp hl
    exact (h.fields f hf).noRef

/-- The statement of a legible table declares that table. -/
theorem table?_statement {t : Table} (h : t.Legible)
    : t.statement.table? = some t := by
  rw [statement, Statement.table?, fields_body h, note_body h]

end Table
-----------------------------------------------------------------------------------------
-- Groups
-----------------------------------------------------------------------------------------

/-- Whether a group is read back as it is written. Its note is always written as a block. -/
structure TableGroup.Plain (g : TableGroup) : Prop where
  name : PlainName g.name
  members : ∀ m ∈ g.members, m.Plain
  note : ∀ n ∈ g.note, TripleFree n.toList
  color : ∀ c ∈ g.color, IsColor c

instance (g : TableGroup) : Decidable g.Plain :=
  decidable_of_iff (PlainName g.name ∧ (∀ m ∈ g.members, m.Plain)
      ∧ (∀ n ∈ g.note, TripleFree n.toList) ∧ ∀ c ∈ g.color, IsColor c)
    ⟨fun h => ⟨h.1, h.2.1, h.2.2.1, h.2.2.2⟩,
      fun h => ⟨h.name, h.members, h.note, h.color⟩⟩

/-- Whether the block of a group is read back. -/
structure TableGroup.Legible (g : TableGroup) : Prop where
  name : IsName g.name
  closed : ClosedName g.name
  members : ∀ m ∈ g.members, m.Legible
  note : ∀ n ∈ g.note, EndsLine (noteLine n).toList
  color : ∀ c ∈ g.color, IsColor c

/-- A note without triple quotes inside ends where its line does. -/
theorem TableGroup.endsLine_noteLine {note : String} (h : TripleFree note.toList)
    : EndsLine (noteLine note).toList := by
  have hkey (after : List Char)
      : Leads endsText after .plain ['N', 'o', 't', 'e', ':', ' '] .plain :=
    leads_plain rfl
  rw [toList_noteLine]
  refine (hkey _).append_endsLine ((settled_block h).endsLine ?_)
  simp [Literal.block, tripleQuote, List.getLast?_cons]

theorem TableGroup.Plain.legible {g : TableGroup} (h : g.Plain)
    : g.Legible where
  name := h.name.isName
  closed := h.name.closed
  members m hm := (h.members m hm).legible
  note n hn := endsLine_noteLine (h.note n hn)
  color := h.color

namespace TableGroup

/-- The note line of a group is one line of tokens if it ends where it should. -/
theorem reads_noteLine {note : String} (h : EndsLine (noteLine note).toList)
    : Reads ((indent ++ noteLine note).toList ++ ['\n']) [.text (noteLine note) none 0] := by
  have hne : Literal.block note.toList ≠ [] := by simp [Literal.block, tripleQuote]
  refine reads_indented h ?_ ?_
  · rw [toList_noteLine]
    exact isTrimmed_cons_append rfl (Literal.isTrimmed_block note.toList).2 hne
  · simp [noteLine]

/-- The lines of the block of a group. -/
def body (g : TableGroup) : List BlockLine :=
  g.members.map (fun m => ⟨writeName m.table, m.comment⟩)
    ++ g.note.toList.map (⟨noteLine ·, none⟩)

/-- The statement that the text of a group makes. -/
def statement (g : TableGroup) : Statement :=
  .group ⟨g.name, g.color⟩ g.body

/-- The lines of a legible group are read as those of its block. -/
theorem reads_body {g : TableGroup} (h : g.Legible)
    : Reads
        ((g.members.map (fun m => indent ++ m.toText)
            ++ g.note.toList.map (fun note => indent ++ noteLine note)).flatMap
          fun l => l.toList ++ ['\n'])
        (g.body.map BlockLine.token) := by
  rw [List.flatMap_append, body, List.map_append]
  refine Reads.append (reads_lines ?_) (reads_lines ?_)
  · exact fun m hm => Member.reads_toText (h.members m hm)
  · exact fun note hn => reads_noteLine (h.note note (Option.mem_toList.mp hn))

/-- The text of a legible group makes the statement of that group. -/
theorem declares_toText {g : TableGroup} (h : g.Legible)
    : Declares (g.toText.toList ++ ['\n']) [g.statement] := by
  have hd := declares_block (shut_groupHeading h.closed h.color)
    (isTrimmed_groupHeading h.color) (groupHeading_ne_empty g.name g.color)
    (ofLine?_groupHeading g.name g.color) (reads_body h)
  rw [Statement.ofBlock?, tableHeading?_groupHeading,
    groupHeading?_groupHeading h.name h.color] at hd
  rw [g.toText_eq]
  exact hd

/-- The member lines of a group list its members, and its note line lists none. -/
theorem members_body {g : TableGroup} (h : g.Legible)
    : g.body.flatMap BlockLine.members = g.members := by
  have hnote : (g.note.toList.map (⟨noteLine ·, none⟩)).flatMap BlockLine.members = [] := by
    rw [List.flatMap_map, List.flatMap_eq_nil_iff]
    intro note _
    simp [BlockLine.members, noteLine, noteValue?_block]
  have hmembers : (g.members.map fun m => ⟨writeName m.table, m.comment⟩).flatMap
      BlockLine.members = g.members := by
    rw [List.flatMap_map]
    refine (List.flatMap_congr ?_).trans (List.flatMap_singleton' g.members)
    exact fun m hm => Member.members_line (h.members m hm)
  rw [body, List.flatMap_append, hnote, hmembers, List.append_nil]

/-- The note line of a group gives its note, and no member line does. -/
theorem note_body (g : TableGroup)
    : g.body.reverse.findSome? BlockLine.note? = g.note := by
  have hmembers
      : (g.members.map fun m => ⟨writeName m.table, m.comment⟩).reverse.findSome?
          BlockLine.note? = none := by
    rw [List.findSome?_eq_none_iff]
    intro l hl
    obtain ⟨m, _, rfl⟩ := List.mem_map.mp (List.mem_reverse.mp hl)
    have hline : (writeName m.table).toList = (writeName m.table).toList ++ [] := by simp
    simp [BlockLine.note?, noteValue?_writeName hline List.not_mem_nil]
  have hnote (note : String) : BlockLine.note? ⟨noteLine note, none⟩ = some note := by
    have hr := Ref.ofLine?_eq_none (toList_noteLine note) (by decide)
    simp only [BlockLine.note?, BlockLine.ref?, hr]
    exact noteValue?_block note
  rw [body, List.reverse_append, List.findSome?_append, hmembers, Option.or_none]
  cases g.note with
  | none => rfl
  | some note => simp [hnote]

/-- The statement of a legible group declares that group. -/
theorem group?_statement {g : TableGroup} (h : g.Legible)
    : g.statement.group? = some g := by
  rw [statement, Statement.group?, members_body h, note_body g]

end TableGroup

-----------------------------------------------------------------------------------------
-- Schemas
-----------------------------------------------------------------------------------------

/-- Whether a schema is read back as it is written. One without tables is refused. -/
structure Schema.Plain (s : Schema) : Prop where
  nonempty : s.tables ≠ []
  tables : ∀ t ∈ s.tables, t.Plain
  refs : ∀ r ∈ s.refs, r.Plain
  groups : ∀ g ∈ s.groups, g.Plain

instance (s : Schema) : Decidable s.Plain :=
  decidable_of_iff (s.tables ≠ [] ∧ (∀ t ∈ s.tables, t.Plain) ∧ (∀ r ∈ s.refs, r.Plain)
      ∧ ∀ g ∈ s.groups, g.Plain)
    ⟨fun h => ⟨h.1, h.2.1, h.2.2.1, h.2.2.2⟩,
      fun h => ⟨h.nonempty, h.tables, h.refs, h.groups⟩⟩

/-- Whether the text of a schema is read back. -/
structure Schema.Legible (s : Schema) : Prop where
  nonempty : s.tables ≠ []
  tables : ∀ t ∈ s.tables, t.Legible
  refs : ∀ r ∈ s.refs, r.Legible
  groups : ∀ g ∈ s.groups, g.Legible

theorem Schema.Plain.legible {s : Schema} (h : s.Plain)
    : s.Legible where
  nonempty := h.nonempty
  tables t ht := (h.tables t ht).legible
  refs r hr := (h.refs r hr).legible
  groups g hg := (h.groups g hg).legible

namespace Schema

/-- The statements that the text of a schema makes. -/
def statements (s : Schema) : List Statement :=
  s.tables.map Table.statement ++ s.refs.map .ref ++ s.groups.map TableGroup.statement

/-- The text of a legible schema makes its statements. -/
theorem declares_toText {s : Schema} (h : s.Legible)
    : Declares s.toText.toList s.statements := by
  have hline : "\n".toList = List.replicate (0 + 1) '\n' := rfl
  have hblank : "\n\n".toList = List.replicate (1 + 1) '\n' := rfl
  have htables := declares_intercalate (fun t ht => Table.declares_toText (h.tables t ht)) hblank
  have hrefs := declares_intercalate (fun r hr => Ref.declares_toText (h.refs r hr)) hline
  have hgroups := declares_intercalate (fun g hg => TableGroup.declares_toText (h.groups g hg))
    hblank
  rw [← List.map_eq_flatMap] at htables hrefs hgroups
  have hsections
      : ∀ p ∈ [("\n\n".intercalate (s.tables.map Table.toText), s.tables.map Table.statement),
          ("\n".intercalate (s.refs.map Ref.toText), s.refs.map Statement.ref),
          ("\n\n".intercalate (s.groups.map TableGroup.toText),
            s.groups.map TableGroup.statement)],
        Declares (p.1.toList ++ ['\n']) p.2 := by
    simp only [List.forall_mem_cons]
    exact ⟨htables, hrefs, hgroups, fun p hp => nomatch hp⟩
  have hall := declares_paragraphs hsections
  rw [toText, statements, List.append_assoc]
  simpa only [List.map_cons, List.map_nil, List.flatMap_cons, List.flatMap_nil,
    List.append_nil] using hall

/-- The tables of a legible schema are those of its statements. -/
theorem tables_statements {s : Schema} (h : s.Legible)
    : s.statements.filterMap Statement.table? = s.tables := by
  have htables : (s.tables.map Table.statement).filterMap Statement.table? = s.tables :=
    filterMap_map_eq_self fun t ht => Table.table?_statement (h.tables t ht)
  have hrefs : (s.refs.map Statement.ref).filterMap Statement.table? = [] :=
    filterMap_map_eq_nil fun _ _ => rfl
  have hgroups : (s.groups.map TableGroup.statement).filterMap Statement.table? = [] :=
    filterMap_map_eq_nil fun _ _ => rfl
  rw [statements, List.filterMap_append, List.filterMap_append, htables, hrefs, hgroups,
    List.append_nil, List.append_nil]

/-- The references of a legible schema are those of its statements, none of them in a table. -/
theorem refs_statements {s : Schema} (h : s.Legible)
    : s.statements.flatMap Statement.refs = s.refs := by
  have htables : (s.tables.map Table.statement).flatMap Statement.refs = [] := by
    rw [List.flatMap_map, List.flatMap_eq_nil_iff]
    exact fun t ht => Table.refs_body (h.tables t ht)
  have hrefs : (s.refs.map Statement.ref).flatMap Statement.refs = s.refs := by
    rw [List.flatMap_map]
    exact List.flatMap_singleton' s.refs
  have hgroups : (s.groups.map TableGroup.statement).flatMap Statement.refs = [] := by
    rw [List.flatMap_map, List.flatMap_eq_nil_iff]
    exact fun g _ => rfl
  rw [statements, List.flatMap_append, List.flatMap_append, htables, hrefs, hgroups,
    List.nil_append, List.append_nil]

/-- The groups of a legible schema are those of its statements. -/
theorem groups_statements {s : Schema} (h : s.Legible)
    : s.statements.filterMap Statement.group? = s.groups := by
  have htables : (s.tables.map Table.statement).filterMap Statement.group? = [] :=
    filterMap_map_eq_nil fun _ _ => rfl
  have hrefs : (s.refs.map Statement.ref).filterMap Statement.group? = [] :=
    filterMap_map_eq_nil fun _ _ => rfl
  have hgroups : (s.groups.map TableGroup.statement).filterMap Statement.group? = s.groups :=
    filterMap_map_eq_self fun g hg => TableGroup.group?_statement (h.groups g hg)
  rw [statements, List.filterMap_append, List.filterMap_append, htables, hrefs, hgroups,
    List.nil_append, List.nil_append]

/-- A text that makes the statements of a legible schema is read as that schema. -/
theorem ofText_of_declares {s : Schema} (h : s.Legible) {text : String}
    (hd : Declares text.toList s.statements)
    : ofText text = .ok s := by
  obtain ⟨ts, hr, hb, ho⟩ := hd
  have hscan : (Token.scan text).map Token.unplaced = ts := by
    have hts := hr []
    have hnil : scanned [] none [] = [] := by
      rw [scanned, Lexeme.ofText]
      rfl
    rw [List.append_nil, hnil, List.append_nil] at hts
    rw [map_unplaced_scan, hts]
  have hmade : Statement.ofTokens ts = s.statements := by
    have hts := ho []
    rwa [List.append_nil, Statement.ofTokens_nil, List.append_nil] at hts
  have hpair : bracesPair 0 ts = true := by
    have hts := hb 0 []
    rwa [List.append_nil] at hts
  obtain ⟨t, ts', ht⟩ := List.exists_cons_of_ne_nil h.nonempty
  have hmem : t.statement ∈ Statement.ofTokens ts := by
    rw [hmade, statements, ht]
    simp
  rw [ofText_eq_ok hscan hpair hmem, hmade, schemaOf, tables_statements h, refs_statements h,
    groups_statements h]

/-- The text of a plain schema is read as that schema. -/
theorem ofText_toText {s : Schema} (h : s.Plain)
    : ofText s.toText = .ok s :=
  ofText_of_declares h.legible (declares_toText h.legible)

/-- A schema whose names, types, constraints, notes and comments hold signs that mean something
elsewhere in markup.
-/
def intricate : Schema where
  tables := [
    { name := "order \x7blines\x7d"
      note := some "first\n''second'' // \x7b"
      fields := [
        { name := "id", type := "integer", constraints := ["primary key", "default: \"a, b\""] },
        { name := "unit [€], net"
          type := "decimal(10, 2) ]"
          note := some "a \\ \"b\", ''' c"
          constraints := ["not null"] }] },
    { name := "note" }]
  refs := [⟨"order \x7blines\x7d", "id", .oneToOne, "note", "x.y"⟩]
  groups := [
    { name := "all // of it"
      members := [⟨"note", none⟩, ⟨"order \x7blines\x7d", some "// \x7d '''"⟩]
      note := some "it''s\n\x7d"
      color := some "#a1b2c3" }]

/-- Reading back the text of such a schema. -/
theorem ofText_toText_intricate
    : intricate.Plain ∧ ofText intricate.toText = .ok intricate :=
  ⟨by decide +kernel, ofText_toText (by decide +kernel)⟩

end Schema
end SchemaMarkup
