import SchemaMarkup.Proofs.Distinct
import SchemaMarkup.Proofs.Markup.Repeats

/-! Written schemas without their repeated lines. Dropping repeated lines from the text of a schema
is dropping repeated fields and references from the schema, since every line is taken for what it
was written for.
-/

namespace SchemaMarkup

open Text Markup

/-- The first field of each name, and all fields whose name is that of a note. -/
def firstFields (declared : List String) : List Field → List Field
  | [] => []
  | f :: fs =>
    if lower f.name = "note" then f :: firstFields declared fs
    else if f.name ∈ declared then firstFields declared fs
    else f :: firstFields (f.name :: declared) fs

/-- The table without repeated fields. -/
def Table.withoutRepeats (t : Table) : Table :=
  { t with fields := firstFields [] t.fields }

/-- The relationship that a reference states as it is written, whichever way it is to be read. -/
def Ref.stated (c : Conventions) (r : Ref) : Relationship :=
  .between c false r.sourceTable r.sourceField r.targetTable r.targetField

/-- The schema without repeated fields and without references that state the same. -/
def Schema.withoutRepeats (c : Conventions) (s : Schema) : Schema :=
  { s with
    tables := s.tables.map Table.withoutRepeats
    refs := distinctBy (Ref.stated c) [] s.refs }

variable {c : Conventions} {keys : List Relationship}

/-- The lines of fields leave those of the first fields, by induction on the fields. -/
theorem leaves_fields {fields : List Field}
    (h : ∀ f ∈ fields, PlainName f.name ∧ PlainType f.type) (declared : List String)
    : ∃ declared', Leaves c ⟨some { declared }, keys⟩ (fields.map Field.line)
        ⟨some { declared := declared' }, keys⟩ ((firstFields declared fields).map Field.line) := by
  induction fields generalizing declared with
  | nil => exact ⟨declared, leaves_nil⟩
  | cons f fs ih =>
      obtain ⟨hn, ht⟩ := h f List.mem_cons_self
      have ih := ih fun g hg => h g (List.mem_cons_of_mem f hg)
      have hk := Field.declaredKey?_line c ht
      have hs := Field.step?_line hn ht declared
      rw [firstFields]
      split
      · rename_i hl
        rw [if_pos hl] at hs
        obtain ⟨declared', hfs⟩ := ih declared
        exact ⟨declared', (leaves_line hk hs).append hfs⟩
      · rename_i hl
        rw [if_neg hl] at hs
        split
        · rename_i hm
          rw [if_pos hm] at hs
          obtain ⟨declared', hfs⟩ := ih declared
          exact ⟨declared', (leaves_nothing hk hs).append hfs⟩
        · rename_i hm
          rw [if_neg hm] at hs
          obtain ⟨declared', hfs⟩ := ih (f.name :: declared)
          exact ⟨declared', (leaves_line hk hs).append hfs⟩

/-- The block of a table leaves that of the table without repeats. -/
theorem Table.leaves_lines {t : Table} (name : PlainName t.name)
    (fields : ∀ f ∈ t.fields, PlainName f.name ∧ PlainType f.type)
    : Leaves c ⟨none, keys⟩ (t.lines.map String.toList) ⟨none, keys⟩
        (t.withoutRepeats.lines.map String.toList) := by
  let noteLines : List (List Char) := t.note.toList.map fun note => (indent ++ noteText note).toList
  have hlines (t' : Table) (note : t'.note = t.note)
      : t'.lines.map String.toList = [(tableHeading t'.name ++ " \x7b").toList]
          ++ (noteLines ++ (t'.fields.map Field.line ++ ["\x7d".toList])) := by
    simp [lines, note, noteLines, Field.line, Function.comp_def]
  have hnote : Leaves c ⟨some {}, keys⟩ noteLines ⟨some {}, keys⟩ noteLines := by
    dsimp only [noteLines]
    cases t.note with
    | none => exact leaves_nil
    | some note => exact leaves_note note []
  obtain ⟨declared, hf⟩ : ∃ declared, Leaves c ⟨some {}, keys⟩ (t.fields.map Field.line)
      ⟨some { declared }, keys⟩ (t.withoutRepeats.fields.map Field.line) :=
    leaves_fields fields []
  rw [hlines t rfl, hlines t.withoutRepeats rfl]
  exact (leaves_heading name).append (hnote.append (hf.append leaves_closing))

/-- The lines of references leave those of the first that state each relationship, by induction. -/
theorem leaves_refs {refs : List Ref} (h : ∀ r ∈ refs, r.Plain) (keys : List Relationship)
    : ∃ keys', Leaves c ⟨none, keys⟩ (refs.map fun r => r.toText.toList) ⟨none, keys'⟩
        ((distinctBy (Ref.stated c) keys refs).map fun r => r.toText.toList) := by
  induction refs generalizing keys with
  | nil => exact ⟨keys, leaves_nil⟩
  | cons r rs ih =>
      have ih := ih fun q hq => h q (List.mem_cons_of_mem r hq)
      have hk : declaredKey? c r.toText.toList = some (r.stated c) :=
        declaredKey?_toText (h r List.mem_cons_self)
      rw [distinctBy]
      split
      · rename_i hm
        obtain ⟨keys', hrs⟩ := ih keys
        exact ⟨keys', (leaves_repeated hk hm).append hrs⟩
      · rename_i hm
        obtain ⟨keys', hrs⟩ := ih (r.stated c :: keys)
        exact ⟨keys', (leaves_new hk hm).append hrs⟩

/-- Whether every line of a written schema is taken for what it was written for. -/
structure Schema.Recognizable (s : Schema) : Prop where
  tables : ∀ t ∈ s.tables, PlainName t.name
  fields : ∀ t ∈ s.tables, ∀ f ∈ t.fields, PlainName f.name ∧ PlainType f.type
  refs : ∀ r ∈ s.refs, r.Plain

namespace Schema

variable {s : Schema}

/-- The lines of tables, each block after an empty line, leave those of the tables without repeats,
by induction on the tables.
-/
theorem leaves_tables {ts : List Table} (tables : ∀ t ∈ ts, PlainName t.name)
    (fields : ∀ t ∈ ts, ∀ f ∈ t.fields, PlainName f.name ∧ PlainType f.type)
    : Leaves c ⟨none, keys⟩ ((spaced (ts.map Table.lines)).map String.toList) ⟨none, keys⟩
        ((spaced ((ts.map Table.withoutRepeats).map Table.lines)).map String.toList) := by
  induction ts with
  | nil => exact leaves_nil
  | cons t ts ih =>
      have ih := ih (fun u hu => tables u (List.mem_cons_of_mem t hu)) fun u hu =>
        fields u (List.mem_cons_of_mem t hu)
      have hname := tables t List.mem_cons_self
      have hfields := fields t List.mem_cons_self
      rw [List.map_cons, List.map_cons, List.map_cons, map_spaced_cons, map_spaced_cons]
      exact (leaves_blank.append (Table.leaves_lines hname hfields)).append ih

/-- The lines of references, after an empty line if there are any, leave those of the references
without repeats.
-/
theorem leaves_refBlocks (h : ∀ r ∈ s.refs, r.Plain)
    : ∃ keys, Leaves c {} ((spaced s.refBlocks).map String.toList) ⟨none, keys⟩
        ((spaced (s.withoutRepeats c).refBlocks).map String.toList) := by
  by_cases hr : s.refs = []
  · have hw : (s.withoutRepeats c).refs = [] := by
      rw [withoutRepeats, hr]
      rfl
    rw [refBlocks, refBlocks, if_pos hr, if_pos hw]
    exact ⟨[], leaves_nil⟩
  · have hw : (s.withoutRepeats c).refs ≠ [] := by
      obtain ⟨r, rs, hc⟩ := List.exists_cons_of_ne_nil hr
      rw [withoutRepeats, hc]
      simp [distinctBy]
    obtain ⟨keys, hl⟩ := leaves_refs (c := c) h []
    rw [refBlocks, refBlocks, if_neg hr, if_neg hw, map_spaced_cons, map_spaced_cons, List.map_map,
      List.map_map]
    exact ⟨keys, (leaves_blank.append hl).append leaves_nil⟩

/-- The lines of groups, each block after an empty line, are left, by induction on the groups. -/
theorem leaves_groups (groups : List TableGroup)
    : Leaves c ⟨none, keys⟩ ((spaced (groups.map TableGroup.lines)).map String.toList) ⟨none, keys⟩
        ((spaced (groups.map TableGroup.lines)).map String.toList) := by
  induction groups with
  | nil => exact leaves_nil
  | cons g gs ih =>
      rw [List.map_cons, map_spaced_cons]
      exact (leaves_blank.append g.leaves_lines).append ih

/-- The lines of a schema leave those of the schema without repeats. -/
theorem leaves_blocks (h : s.Recognizable)
    : ∃ keys, Leaves c {} ((spaced s.blocks).map String.toList) ⟨none, keys⟩
        ((spaced (s.withoutRepeats c).blocks).map String.toList) := by
  obtain ⟨keys, hr⟩ := leaves_refBlocks (c := c) h.refs
  rw [blocks, blocks, map_spaced_append, map_spaced_append, map_spaced_append, map_spaced_append]
  exact ⟨keys, ((leaves_tables h.tables h.fields).append hr).append (leaves_groups s.groups)⟩

end Schema

/-- Texts of logical lines, of which the lines of one leave those of the other. -/
theorem Markup.withoutRepeats_eq {text text' : String} {ls left : List String}
    {keys : List Relationship} (logical : ∀ l ∈ ls, IsLogical l.toList)
    (before : '\n' :: text.toList = ended ls) (after : '\n' :: text'.toList = ended left)
    (hl : Leaves c {} (ls.map String.toList) ⟨none, keys⟩ (left.map String.toList))
    : Markup.withoutRepeats c text = text' := by
  have chars (ls : List String) : ended ls = (ls.map String.toList).flatMap (· ++ ['\n']) := by
    rw [ended, List.flatMap_map]
  have empty : IsLogical [] := isLogical_of_tripleFree (by decide) (by decide)
  have blank : logicalLines ('\n' :: text.toList) = [] :: logicalLines text.toList :=
    empty text.toList
  have lines : logicalLines ('\n' :: text.toList) = ls.map String.toList ++ [[]] := by
    rw [before, chars, logicalLines_flatMap]
    intro l hm
    obtain ⟨l, hm', rfl⟩ := List.mem_map.mp hm
    exact logical l hm'
  have kept : [] :: linesWithoutRepeats c none [] (logicalLines text.toList)
      = left.map String.toList ++ [[]] := by
    have hb : Leaves c {} [[]] {} [[]] := leaves_blank
    have hb := hb (logicalLines text.toList)
    rw [List.singleton_append, List.singleton_append, ← blank, lines] at hb
    exact hb.symm.trans (hl [[]])
  have some : linesWithoutRepeats c none [] (logicalLines text.toList) ≠ [] := by
    intro he
    rw [he] at kept
    have hnil : left.map String.toList = [] := List.self_eq_append_left.mp kept
    rw [List.map_eq_nil_iff.mp hnil] at after
    cases after
  have joined := congrArg (['\n'].intercalate ·) kept
  rw [intercalate_concat_nil, ← chars, ← after, List.intercalate_cons_of_ne_nil some] at joined
  have chars' : ['\n'].intercalate (linesWithoutRepeats c none [] (logicalLines text.toList))
      = text'.toList :=
    (List.cons.inj joined).2
  rw [Markup.withoutRepeats, chars', String.ofList_toList]

/-- A schema without blocks declares nothing. -/
theorem Schema.blocks_eq_nil_iff {s : Schema}
    : s.blocks = [] ↔ s.tables = [] ∧ s.refs = [] ∧ s.groups = [] := by
  have hrefs : s.refBlocks = [] ↔ s.refs = [] := by
    rw [refBlocks]
    split
    · rename_i hr
      exact iff_of_true rfl hr
    · rename_i hr
      exact iff_of_false (List.cons_ne_nil _ _) hr
  rw [blocks, List.append_eq_nil_iff, List.append_eq_nil_iff, List.map_eq_nil_iff,
    List.map_eq_nil_iff, hrefs, and_assoc]

/-- A schema is left without blocks only if it had none. -/
theorem Schema.blocks_withoutRepeats {s : Schema} (h : s.blocks ≠ [])
    : (s.withoutRepeats c).blocks ≠ [] := by
  intro he
  obtain ⟨ht, hr, hg⟩ := blocks_eq_nil_iff.mp he
  refine h (blocks_eq_nil_iff.mpr ⟨List.map_eq_nil_iff.mp ht, ?_, hg⟩)
  cases hs : s.refs with
  | nil => rfl
  | cons r rs => simp [withoutRepeats, hs, distinctBy] at hr

/-- Dropping repeated lines from the text of a schema gives that of the schema without repeats. -/
theorem Schema.withoutRepeats_toText {s : Schema} (h : s.Recognizable)
    (logical : ∀ l ∈ spaced s.blocks, IsLogical l.toList)
    : Markup.withoutRepeats c s.toText = (s.withoutRepeats c).toText := by
  by_cases hb : s.blocks = []
  · obtain ⟨tables, refs, groups⟩ := s
    obtain ⟨rfl, rfl, rfl⟩ : tables = [] ∧ refs = [] ∧ groups = [] := blocks_eq_nil_iff.mp hb
    rfl
  · obtain ⟨keys, hl⟩ := leaves_blocks (c := c) h
    exact withoutRepeats_eq logical (cons_toText hb) (cons_toText (blocks_withoutRepeats hb)) hl

end SchemaMarkup
