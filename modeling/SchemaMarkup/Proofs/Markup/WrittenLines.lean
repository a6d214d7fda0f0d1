import SchemaMarkup.Proofs.Markup.SchemaRepeats

/-! The lines of written schemas. Only a note may have several lines, and then it stands between
triple quotes. So if no other triple quotes are written, every line of the text is a logical line,
and dropping its repeated lines is dropping repeated fields and references from the schema.
-/

namespace SchemaMarkup

open Text Markup

namespace Markup

-----------------------------------------------------------------------------------------
-- Texts of one line
-----------------------------------------------------------------------------------------

/-- Whether a text has one line and no triple quotes. -/
structure OneLine (text : String) : Prop where
  single : '\n' ∉ text.toList
  free : TripleFree text.toList

instance (text : String) : Decidable (OneLine text) :=
  decidable_of_iff ('\n' ∉ text.toList ∧ TripleFree text.toList)
    ⟨fun h => ⟨h.1, h.2⟩, fun h => ⟨h.single, h.free⟩⟩

/-- Whether characters stay on one line and hold an even number of triple quotes. -/
structure Paired (cs : List Char) : Prop where
  single : '\n' ∉ cs
  even : oddTripleQuotes cs = false

instance (cs : List Char) : Decidable (Paired cs) :=
  decidable_of_iff ('\n' ∉ cs ∧ oddTripleQuotes cs = false)
    ⟨fun h => ⟨h.1, h.2⟩, fun h => ⟨h.single, h.even⟩⟩

theorem OneLine.paired {text : String} (h : OneLine text)
    : Paired text.toList :=
  ⟨h.single, oddTripleQuotes_of_tripleFree h.free⟩

theorem PlainName.oneLine {name : String} (h : PlainName name) (free : TripleFree name.toList)
    : OneLine name :=
  ⟨fun hm => (h.chars _ hm).2.2 rfl, free⟩

/-- A plain type holds no quotes at all. -/
theorem PlainType.oneLine {type : String} (h : PlainType type)
    : OneLine type where
  single hm := h.chars _ hm (by decide)
  free hi := h.chars '\'' (hi.subset List.mem_cons_self) (by decide)

/-- Texts joined by another character than a single quote share no quotes. -/
theorem Paired.append_cons {as bs : List Char} (ha : Paired as) (hb : Paired bs) (c : Char)
    (hc : c ≠ '\'' ∧ c ≠ '\n' := by decide)
    : Paired (as ++ c :: bs) where
  single hm := by
    rcases List.mem_append.mp hm with hm | hm
    · exact ha.single hm
    · rcases List.mem_cons.mp hm with he | hm
      · exact hc.2 he.symm
      · exact hb.single hm
  even := by
    rw [oddTripleQuotes_append_cons hc.1, ha.even, hb.even]
    rfl

theorem paired_nil
    : Paired [] :=
  ⟨List.not_mem_nil, rfl⟩

theorem Paired.cons {cs : List Char} (h : Paired cs) (c : Char)
    (hc : c ≠ '\'' ∧ c ≠ '\n' := by decide)
    : Paired (c :: cs) :=
  paired_nil.append_cons h c hc

theorem Paired.concat {cs : List Char} (h : Paired cs) (c : Char)
    (hc : c ≠ '\'' ∧ c ≠ '\n' := by decide)
    : Paired (cs ++ [c]) :=
  h.append_cons paired_nil c hc

/-- A line of an even number of triple quotes is finished. -/
theorem Paired.isFinished {cs : List Char} (h : Paired cs)
    : IsFinished cs :=
  isFinished_of_even h.single h.even

/-- The written form of a name adds at most double quotes. -/
theorem OneLine.paired_writeName {name : String} (h : OneLine name)
    : Paired (writeName name).toList := by
  rcases toList_writeName name with ⟨_, he⟩ | he
  · rw [he]
    exact h.paired
  · rw [he]
    exact (h.paired.concat '"').cons '"'

/-- Texts each ended by a comma and a blank, before another text, by induction. -/
theorem paired_flatMap {texts : List String} (h : ∀ t ∈ texts, OneLine t) {rest : List Char}
    (hr : Paired rest)
    : Paired ((texts.flatMap fun t => t.toList ++ [',', ' ']) ++ rest) := by
  induction texts with
  | nil => exact hr
  | cons t ts ih =>
      have ht := (h t List.mem_cons_self).paired
      have hts := ih fun u hu => h u (List.mem_cons_of_mem t hu)
      rw [List.flatMap_cons, List.append_assoc, List.append_assoc]
      exact ht.append_cons (hts.cons ' ') ','

/-- Texts joined by commas, all but the last ended by a comma and a blank, by induction. -/
theorem toList_intercalate_concat (init : List String) (last : String)
    : (", ".intercalate (init ++ [last])).toList
      = (init.flatMap fun t => t.toList ++ [',', ' ']) ++ last.toList := by
  induction init with
  | nil => simp
  | cons t init ih =>
      rw [List.cons_append, String.intercalate_cons_of_ne_nil (by simp), String.toList_append,
        String.toList_append, ih, List.flatMap_cons]
      simp

-----------------------------------------------------------------------------------------
-- Notes
-----------------------------------------------------------------------------------------

/-- An escaped text begins with a single quote only if the text does. -/
theorem escape_eq_cons {cs ds : List Char} (h : Literal.escape cs = '\'' :: ds)
    : ∃ es, cs = '\'' :: es ∧ Literal.escape es = ds := by
  cases cs with
  | nil => cases h
  | cons c cs =>
      rw [Literal.escape] at h
      split at h
      · exact absurd (List.cons.inj h).1 (by decide)
      · obtain ⟨rfl, rfl⟩ := List.cons.inj h
        exact ⟨cs, rfl, rfl⟩

/-- Escaping neither adds single quotes nor parts them, by the cases of counting them. -/
theorem oddTripleQuotes_escape (cs : List Char)
    : oddTripleQuotes (Literal.escape cs) = oddTripleQuotes cs := by
  fun_induction oddTripleQuotes cs with
  | case1 cs ih => exact congrArg (! ·) ih
  | case2 c cs hne ih =>
      rw [Literal.escape]
      split
      · rename_i hc
        have hq : c ≠ '\'' := by
          rintro rfl
          exact absurd hc (by decide)
        rw [oddTripleQuotes, oddTripleQuotes, ih]
        · exact fun _ he => absurd he hq
        · exact fun _ he => absurd he (by decide)
      · rw [oddTripleQuotes, ih]
        rintro rest rfl hr
        obtain ⟨ds, rfl, hd⟩ := escape_eq_cons hr
        obtain ⟨es, rfl, _⟩ := escape_eq_cons hd
        exact hne es rfl rfl
  | case3 => rfl

/-- Escaping adds no line feed, by induction. -/
theorem newline_notMem_escape {cs : List Char} (h : '\n' ∉ cs)
    : '\n' ∉ Literal.escape cs := by
  induction cs with
  | nil => exact h
  | cons c cs ih =>
      obtain ⟨hc, hcs⟩ := not_or.mp fun hm => h (List.mem_cons.mpr hm)
      rw [Literal.escape]
      split
      · simpa [hc] using ih hcs
      · simpa [hc] using ih hcs

/-- A note ends its line, whether it stands between double quotes or between triple quotes. -/
theorem Paired.isFinished_note {before after : List Char} {note : String} (hb : Paired before)
    (free : TripleFree note.toList) (ha : Paired after) (hq : '\'' ∉ after)
    : IsFinished (before ++ ' ' :: ((Literal.encode note).toList ++ after)) := by
  rw [Literal.toList_encode]
  split
  · exact isFinished_block hb.single hb.even free hq ha.single
  · rename_i single
    have hescape : Paired (Literal.escape note.toList) := by
      refine ⟨newline_notMem_escape single, ?_⟩
      rw [oddTripleQuotes_escape, oddTripleQuotes_of_tripleFree free]
    have hline := hb.append_cons ((hescape.append_cons ha '"').cons '"') ' '
    simpa [Literal.line] using hline.isFinished

end Markup

-----------------------------------------------------------------------------------------
-- Schemas written line by line
-----------------------------------------------------------------------------------------

/-- Whether a field is written on one line, but for its note, and without triple quotes inside. -/
structure Field.Linewise (f : Field) : Prop where
  name : PlainName f.name
  nameFree : TripleFree f.name.toList
  type : PlainType f.type
  constraints : ∀ c ∈ f.constraints, OneLine c
  note : ∀ n ∈ f.note, TripleFree n.toList

instance (f : Field) : Decidable f.Linewise :=
  decidable_of_iff (PlainName f.name ∧ TripleFree f.name.toList ∧ PlainType f.type
      ∧ (∀ c ∈ f.constraints, OneLine c) ∧ ∀ n ∈ f.note, TripleFree n.toList)
    ⟨fun h => ⟨h.1, h.2.1, h.2.2.1, h.2.2.2.1, h.2.2.2.2⟩,
      fun h => ⟨h.name, h.nameFree, h.type, h.constraints, h.note⟩⟩

/-- Whether a table is written so. -/
structure Table.Linewise (t : Table) : Prop where
  name : PlainName t.name
  nameFree : TripleFree t.name.toList
  note : ∀ n ∈ t.note, TripleFree n.toList
  fields : ∀ f ∈ t.fields, f.Linewise

instance (t : Table) : Decidable t.Linewise :=
  decidable_of_iff (PlainName t.name ∧ TripleFree t.name.toList
      ∧ (∀ n ∈ t.note, TripleFree n.toList) ∧ ∀ f ∈ t.fields, f.Linewise)
    ⟨fun h => ⟨h.1, h.2.1, h.2.2.1, h.2.2.2⟩, fun h => ⟨h.name, h.nameFree, h.note, h.fields⟩⟩

/-- Whether a reference is written so. -/
structure Ref.Linewise (r : Ref) : Prop where
  plain : r.Plain
  free : ∀ name ∈ [r.sourceTable, r.sourceField, r.targetTable, r.targetField],
    TripleFree name.toList

instance (r : Ref) : Decidable r.Linewise :=
  decidable_of_iff (r.Plain ∧ ∀ name ∈ [r.sourceTable, r.sourceField, r.targetTable,
      r.targetField], TripleFree name.toList)
    ⟨fun h => ⟨h.1, h.2⟩, fun h => ⟨h.plain, h.free⟩⟩

/-- Whether a group is written so. What it says declares nothing, and may be any text. -/
structure TableGroup.Linewise (g : TableGroup) : Prop where
  name : OneLine g.name
  members : ∀ m ∈ g.members, OneLine m.table ∧ ∀ comment ∈ m.comment, OneLine comment
  note : ∀ n ∈ g.note, TripleFree n.toList
  color : ∀ c ∈ g.color, OneLine c

instance (g : TableGroup) : Decidable g.Linewise :=
  decidable_of_iff (OneLine g.name
      ∧ (∀ m ∈ g.members, OneLine m.table ∧ ∀ comment ∈ m.comment, OneLine comment)
      ∧ (∀ n ∈ g.note, TripleFree n.toList) ∧ ∀ c ∈ g.color, OneLine c)
    ⟨fun h => ⟨h.1, h.2.1, h.2.2.1, h.2.2.2⟩, fun h => ⟨h.name, h.members, h.note, h.color⟩⟩

/-- Whether a schema is written line by line: whatever it says has one line and holds no triple
quotes, but notes may have several lines, and each line is taken for what it was written for.
-/
structure Schema.Linewise (s : Schema) : Prop where
  tables : ∀ t ∈ s.tables, t.Linewise
  refs : ∀ r ∈ s.refs, r.Linewise
  groups : ∀ g ∈ s.groups, g.Linewise

instance (s : Schema) : Decidable s.Linewise :=
  decidable_of_iff ((∀ t ∈ s.tables, t.Linewise) ∧ (∀ r ∈ s.refs, r.Linewise)
      ∧ ∀ g ∈ s.groups, g.Linewise)
    ⟨fun h => ⟨h.1, h.2.1, h.2.2⟩, fun h => ⟨h.tables, h.refs, h.groups⟩⟩

namespace Field.Linewise

variable {f : Field}

/-- A field line is finished: its note comes last, before the closing bracket. -/
theorem isFinished_line (h : f.Linewise)
    : IsFinished f.line := by
  have hname := (h.name.oneLine h.nameFree).paired_writeName
  have hstart : Paired (' ' :: ' ' :: ((writeName f.name).toList ++ ' ' :: f.type.toList)) :=
    ((hname.append_cons h.type.oneLine.paired ' ').cons ' ').cons ' '
  have hline : f.line = ' ' :: ' ' :: ((writeName f.name).toList ++ ' ' :: f.type.toList)
      ++ f.bracketed := by
    rw [line, String.toList_append, toList_toText]
    simp [indent]
  rw [hline, bracketed, inner, allConstraints]
  cases hn : f.note with
  | none =>
      rw [Option.map_none, Option.toList_none, List.append_nil]
      rcases List.eq_nil_or_concat f.constraints with he | ⟨init, last, he⟩
      · rw [he, if_pos rfl, List.append_nil]
        exact hstart.isFinished
      · have hc := h.constraints
        rw [he, List.concat_eq_append, List.forall_mem_append] at hc
        have hinner := paired_flatMap hc.1 (hc.2 last List.mem_cons_self).paired
        rw [he, List.concat_eq_append, if_neg (by simp), toList_intercalate_concat]
        exact (hstart.append_cons ((hinner.concat ']').cons '[') ' ').isFinished
  | some note =>
      have hkey : Paired ['N', 'o', 't', 'e', ':'] := by decide
      have hbefore := hstart.append_cons ((paired_flatMap h.constraints hkey).cons '[') ' '
      have hclose : Paired [']'] := by decide
      have hall := hbefore.isFinished_note (h.note note hn) hclose (by decide)
      rw [Option.map_some, Option.toList_some, if_neg (by simp), toList_intercalate_concat,
        toList_noteText]
      simpa using hall

end Field.Linewise

/-- The lines of a table are finished. -/
theorem Table.Linewise.isFinished_lines {t : Table} (h : t.Linewise) {l : String}
    (hl : l ∈ t.lines)
    : IsFinished l.toList := by
  have hname := (h.name.oneLine h.nameFree).paired_writeName
  have hheading : Paired (tableHeading t.name ++ " \x7b").toList := by
    have hkey : Paired ['T', 'a', 'b', 'l', 'e'] := by decide
    have hbrace : Paired ['\x7b'] := by decide
    rw [String.toList_append, toList_tableHeading]
    simpa using hkey.append_cons (hname.append_cons hbrace ' ') ' '
  rw [lines, List.mem_cons, List.mem_append, List.mem_append, List.mem_singleton] at hl
  rcases hl with rfl | (hl | hl) | rfl
  · exact hheading.isFinished
  · obtain ⟨note, hn, rfl⟩ := List.mem_map.mp hl
    have hkey : Paired [' ', ' ', 'N', 'o', 't', 'e', ':'] := by decide
    have hline := hkey.isFinished_note (h.note note (Option.mem_toList.mp hn)) paired_nil
      List.not_mem_nil
    rw [String.toList_append, toList_noteText]
    simpa [indent] using hline
  · obtain ⟨f, hf, rfl⟩ := List.mem_map.mp hl
    exact (h.fields f hf).isFinished_line
  · exact Paired.isFinished (by decide)

/-- The line of a reference is finished. -/
theorem Ref.Linewise.isFinished_toText {r : Ref} (h : r.Linewise)
    : IsFinished r.toText.toList := by
  obtain ⟨plain, free⟩ := h
  simp only [List.forall_mem_cons] at free
  have hkey : Paired ['R', 'e', 'f', ':'] := by decide
  have hsource := (plain.sourceTable.oneLine free.1).paired_writeName.append_cons
    (plain.sourceField.oneLine free.2.1).paired_writeName '.'
  have htarget := (plain.targetTable.oneLine free.2.2.1).paired_writeName.append_cons
    (plain.targetField.oneLine free.2.2.2.1).paired_writeName '.'
  have hsymbol : r.cardinality.symbol ≠ '\'' ∧ r.cardinality.symbol ≠ '\n' := by
    cases r.cardinality <;> decide
  have hline := hkey.append_cons
    (hsource.append_cons ((htarget.cons ' ').cons r.cardinality.symbol hsymbol) ' ') ' '
  rw [toList_toText]
  simpa using hline.isFinished

namespace TableGroup.Linewise

variable {g : TableGroup}

theorem paired_heading (h : g.Linewise)
    : Paired (groupHeading g.name g.color ++ " \x7b").toList := by
  have hkey : Paired ['T', 'a', 'b', 'l', 'e', 'G', 'r', 'o', 'u', 'p', ' '] := by decide
  have hbrace : Paired [' ', '\x7b'] := by decide
  have hcolor : Paired ((colorSetting g.color).toList ++ [' ', '\x7b']) := by
    unfold colorSetting
    split
    · exact hbrace
    · exact hbrace
    · rename_i color _ hc
      have hset : Paired [' ', '[', 'c', 'o', 'l', 'o', 'r', ':'] := by decide
      have hall := hset.append_cons ((h.color color hc).paired.append_cons hbrace ']') ' '
      simpa using hall
  rw [String.toList_append, toList_groupHeading]
  simpa using hkey.append_cons (h.name.paired.append_cons hcolor '"') '"'

theorem paired_member (h : g.Linewise) {m : Member} (hm : m ∈ g.members)
    : Paired (indent ++ m.toText).toList := by
  obtain ⟨ht, hc⟩ := h.members m hm
  have hname := ht.paired_writeName
  rw [Member.toText]
  split
  · simpa [indent] using (hname.cons ' ').cons ' '
  · simpa [indent] using (hname.cons ' ').cons ' '
  · rename_i comment _ he
    have hslash : Paired ['/', '/'] := by decide
    have hcomment := hslash.append_cons (hc comment he).paired ' '
    simpa [indent] using ((hname.append_cons hcomment ' ').cons ' ').cons ' '

/-- The lines of a group are finished. -/
theorem isFinished_lines (h : g.Linewise) {l : String} (hl : l ∈ g.lines)
    : IsFinished l.toList := by
  rw [lines, List.mem_cons, List.mem_append, List.mem_append, List.mem_singleton] at hl
  rcases hl with rfl | (hl | hl) | rfl
  · exact h.paired_heading.isFinished
  · obtain ⟨m, hm, rfl⟩ := List.mem_map.mp hl
    exact (h.paired_member hm).isFinished
  · obtain ⟨note, hn, rfl⟩ := List.mem_map.mp hl
    have hkey : Paired [' ', ' ', 'N', 'o', 't', 'e', ':'] := by decide
    have hnil (c : Char) : c ∉ [] := List.not_mem_nil
    have hline := isFinished_block hkey.single hkey.even (h.note note (Option.mem_toList.mp hn))
      (hnil '\'') (hnil '\n')
    rw [String.toList_append, toList_noteLine]
    simpa [indent] using hline
  · exact Paired.isFinished (by decide)

end TableGroup.Linewise

namespace Schema

variable {s : Schema}

theorem Linewise.recognizable (h : s.Linewise)
    : s.Recognizable where
  tables t ht := (h.tables t ht).name
  fields t ht f hf := ⟨((h.tables t ht).fields f hf).name, ((h.tables t ht).fields f hf).type⟩
  refs r hr := (h.refs r hr).plain

/-- Every line of a schema written line by line is a logical line. -/
theorem Linewise.isLogical (h : s.Linewise) {l : String} (hl : l ∈ spaced s.blocks)
    : IsLogical l.toList := by
  obtain ⟨ls, hls, hm⟩ := List.mem_flatMap.mp hl
  rw [blocks, List.mem_append, List.mem_append] at hls
  apply IsFinished.isLogical
  rcases List.mem_cons.mp hm with rfl | hm
  · exact paired_nil.isFinished
  rcases hls with (hls | hls) | hls
  · obtain ⟨t, ht, rfl⟩ := List.mem_map.mp hls
    exact (h.tables t ht).isFinished_lines hm
  · rw [refBlocks] at hls
    split at hls
    · cases hls
    · obtain rfl := List.mem_singleton.mp hls
      obtain ⟨r, hr, rfl⟩ := List.mem_map.mp hm
      exact (h.refs r hr).isFinished_toText
  · obtain ⟨g, hg, rfl⟩ := List.mem_map.mp hls
    exact (h.groups g hg).isFinished_lines hm

/-- Dropping the repeated lines from the text of a schema that is written line by line gives the
text of the schema with the first field of each name in each table and the first reference of each
key.
-/
theorem withoutRepeats_toText_linewise (c : Conventions) (h : s.Linewise)
    : Markup.withoutRepeats c s.toText = (s.withoutRepeats c).toText :=
  withoutRepeats_toText h.recognizable fun _ hl => h.isLogical hl

/-- A schema that repeats fields and references between notes, names and comments that look like
other lines.
-/
def repetitive : Schema where
  tables := [
    { name := "order \x7blines\x7d"
      note := some "Table x \x7b\n  id integer\n\x7d"
      fields := [
        { name := "id", type := "integer", constraints := ["primary key", "ref: > x.y"] },
        { name := "table", type := "text", note := some "id integer\nRef: a.b > c.d" },
        { name := "id", type := "text" },
        { name := "note", type := "text" },
        { name := "Note", type := "text" },
        { name := "table", type := "text", note := some "''\n\"a\\b\"" }] },
    { name := "ref", fields := [{ name := "id", type := "integer" }] }]
  refs := [
    ⟨"ref", "id", .manyToOne, "order \x7blines\x7d", "id"⟩,
    ⟨"ref", "id", .oneToOne, "order \x7blines\x7d", "_id"⟩]
  groups := [
    { name := "all \"of\" it"
      members := [⟨"table", some "Ref: a.b > c.d"⟩, ⟨"ref", none⟩]
      note := some "Ref: a.b > c.d\nRef: a.b > c.d"
      color := some "#a1b2c3" }]

/-- Dropping the repeated lines of such a schema drops its repeated fields and references only. -/
theorem withoutRepeats_toText_linewise_repetitive
    : repetitive.Linewise
      ∧ Markup.withoutRepeats .standard repetitive.toText
        = (repetitive.withoutRepeats .standard).toText
      ∧ (repetitive.withoutRepeats .standard).tables.map Table.fieldNames
        = [["id", "table", "note", "Note"], ["id"]]
      ∧ (repetitive.withoutRepeats .standard).refs
        = [⟨"ref", "id", .manyToOne, "order \x7blines\x7d", "id"⟩] :=
  ⟨by decide +kernel, withoutRepeats_toText_linewise .standard (by decide +kernel),
    by decide +kernel, by decide +kernel⟩

end Schema
end SchemaMarkup
