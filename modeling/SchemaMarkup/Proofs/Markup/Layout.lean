import SchemaMarkup.Proofs.Markup.Headings
import SchemaMarkup.Proofs.Markup.Notes

/-! The layout of a written schema: blocks of lines, each after an empty line but the first. A
table and a group are a block of their own, and all references together are one.
-/

namespace SchemaMarkup

open Markup

/-- The lines of a written table. -/
def Table.lines (t : Table) : List String :=
  (tableHeading t.name ++ " \x7b")
    :: (t.note.toList.map (fun note => indent ++ noteText note)
        ++ t.fields.map (fun f => indent ++ f.toText)
        ++ ["\x7d"])

theorem Table.toText_eq (t : Table)
    : t.toText = "\n".intercalate t.lines := by
  rw [toText, Option.toList_map, List.cons_append, List.cons_append]
  rfl

namespace TableGroup

/-- The note line of a group. -/
def noteLine (note : String) : String :=
  "Note: '''" ++ note ++ "'''"

theorem toList_noteLine (note : String)
    : (noteLine note).toList = ['N', 'o', 't', 'e', ':', ' '] ++ Literal.block note.toList := by
  simp [noteLine, Literal.block, tripleQuote]

/-- The lines of a written group. -/
def lines (g : TableGroup) : List String :=
  (groupHeading g.name g.color ++ " \x7b")
    :: (g.members.map (fun m => indent ++ m.toText)
        ++ g.note.toList.map (fun note => indent ++ noteLine note)
        ++ ["\x7d"])

theorem toText_eq (g : TableGroup)
    : g.toText = "\n".intercalate g.lines := by
  rw [toText, lines, Option.toList_map]
  simp only [List.cons_append, List.append_assoc]
  rfl

end TableGroup

namespace Markup

/-- The lines of blocks, each block after an empty line. -/
def spaced (blocks : List (List String)) : List String :=
  blocks.flatMap ("" :: ·)

theorem map_spaced_cons (ls : List String) (blocks : List (List String))
    : (spaced (ls :: blocks)).map String.toList
      = ([[]] ++ ls.map String.toList) ++ (spaced blocks).map String.toList := by
  simp [spaced]

theorem map_spaced_append (blocks more : List (List String))
    : (spaced (blocks ++ more)).map String.toList
      = (spaced blocks).map String.toList ++ (spaced more).map String.toList := by
  rw [spaced, List.flatMap_append, List.map_append]
  rfl

/-- The characters of lines, each ended by a line feed. -/
def ended (ls : List String) : List Char :=
  ls.flatMap fun l => l.toList ++ ['\n']

/-- Lines joined with line feeds are the lines each ended by one, by induction. -/
theorem toList_intercalate_lines {ls : List String} (h : ls ≠ [])
    : ("\n".intercalate ls).toList ++ ['\n'] = ls.flatMap fun l => l.toList ++ ['\n'] := by
  induction ls with
  | nil => exact absurd rfl h
  | cons l ls ih =>
      cases ls with
      | nil => simp
      | cons m ls =>
          rw [String.intercalate_cons_of_ne_nil (List.cons_ne_nil _ _), List.flatMap_cons,
            ← ih (List.cons_ne_nil _ _)]
          simp

/-- The characters of a section with an empty line before it, unless it is left out. -/
def sectionChars (text : String) : List Char :=
  if text = "" then [] else '\n' :: (text.toList ++ ['\n'])

/-- Texts joined with empty lines are the texts each after an empty line, by induction. -/
theorem cons_intercalate {texts : List String} (h : texts ≠ [])
    : '\n' :: (("\n\n".intercalate texts).toList ++ ['\n'])
      = texts.flatMap fun x => '\n' :: (x.toList ++ ['\n']) := by
  induction texts with
  | nil => exact absurd rfl h
  | cons x xs ih =>
      cases xs with
      | nil => simp
      | cons y ys =>
          rw [String.intercalate_cons_of_ne_nil (List.cons_ne_nil _ _), List.flatMap_cons,
            ← ih (List.cons_ne_nil _ _)]
          simp

/-- Paragraphs are their sections, but for the empty line before the first one. -/
theorem cons_paragraphs {sections : List String} (h : ∃ x ∈ sections, x ≠ "")
    : '\n' :: (paragraphs sections).toList = sections.flatMap sectionChars := by
  have hall : sections.flatMap sectionChars
      = (sections.filter (· ≠ "")).flatMap fun x => '\n' :: (x.toList ++ ['\n']) := by
    clear h
    induction sections with
    | nil => rfl
    | cons x xs ih =>
        by_cases hx : x = ""
        · simpa [sectionChars, hx] using ih
        · simpa [sectionChars, hx] using ih
  have hne : sections.filter (· ≠ "") ≠ [] := by
    obtain ⟨x, hx, hn⟩ := h
    exact List.ne_nil_of_mem (List.mem_filter.mpr ⟨hx, by simpa using hn⟩)
  rw [hall, ← cons_intercalate hne, paragraphs]
  split
  · rename_i he
    exact absurd he hne
  · rename_i x xs he
    rw [← he, String.toList_append]
    rfl

/-- Texts of which the first is not empty make up a text that is not empty. -/
theorem intercalate_ne_empty {text : String} (h : text ≠ "") (sep : String) (texts : List String)
    : sep.intercalate (text :: texts) ≠ "" := by
  cases texts with
  | nil => simpa using h
  | cons t ts =>
      rw [String.intercalate_cons_of_ne_nil (List.cons_ne_nil t ts)]
      simp [h]

/-- Whether lines make up a block: there are some, and the first is not empty. -/
def IsBlock (ls : List String) : Prop :=
  ∃ l rest, ls = l :: rest ∧ l ≠ ""

theorem IsBlock.ne_empty {ls : List String} (h : IsBlock ls)
    : "\n".intercalate ls ≠ "" := by
  obtain ⟨l, rest, rfl, hl⟩ := h
  exact intercalate_ne_empty hl "\n" rest

theorem IsBlock.ended {ls : List String} (h : IsBlock ls)
    : '\n' :: (("\n".intercalate ls).toList ++ ['\n']) = Markup.ended ("" :: ls) := by
  obtain ⟨l, rest, rfl, _⟩ := h
  rw [toList_intercalate_lines (List.cons_ne_nil l rest)]
  rfl

/-- Blocks of lines, joined with empty lines. -/
def joined (blocks : List (List String)) : String :=
  "\n\n".intercalate (blocks.map ("\n".intercalate ·))

theorem joined_ne_empty {blocks : List (List String)} (h : ∀ ls ∈ blocks, IsBlock ls)
    (hne : blocks ≠ [])
    : joined blocks ≠ "" := by
  cases blocks with
  | nil => exact absurd rfl hne
  | cons ls rest => exact intercalate_ne_empty (h ls List.mem_cons_self).ne_empty "\n\n" _

/-- A section of blocks is their lines, those of each block after an empty line. -/
theorem sectionChars_joined {blocks : List (List String)} (h : ∀ ls ∈ blocks, IsBlock ls)
    : sectionChars (joined blocks) = ended (spaced blocks) := by
  by_cases hb : blocks = []
  · rw [hb]
    rfl
  · rw [sectionChars, if_neg (joined_ne_empty h hb), joined, cons_intercalate (by simpa using hb),
      List.flatMap_map, spaced, ended, List.flatMap_assoc]
    exact List.flatMap_congr fun ls hls => (h ls hls).ended

/-- Paragraphs of blocks are the lines of all blocks, but for the first empty line. -/
theorem cons_paragraphs_joined {sections : List (List (List String))}
    (h : ∀ bs ∈ sections, ∀ ls ∈ bs, IsBlock ls) (hne : sections.flatten ≠ [])
    : '\n' :: (paragraphs (sections.map joined)).toList = ended (spaced sections.flatten) := by
  have hsome : ∃ x ∈ sections.map joined, x ≠ "" := by
    obtain ⟨ls, hls⟩ := List.exists_mem_of_ne_nil _ hne
    obtain ⟨bs, hbs, hm⟩ := List.mem_flatten.mp hls
    exact ⟨_, List.mem_map_of_mem hbs, joined_ne_empty (h bs hbs) (List.ne_nil_of_mem hm)⟩
  have hchars : sections.flatMap (fun bs => sectionChars (joined bs))
      = sections.flatMap fun bs => ended (spaced bs) :=
    List.flatMap_congr fun bs hbs => sectionChars_joined (h bs hbs)
  rw [cons_paragraphs hsome, List.flatMap_map, hchars]
  simp only [ended, spaced, List.flatten_eq_flatMap, List.flatMap_assoc, id]

end Markup

theorem Table.isBlock_lines (t : Table)
    : IsBlock t.lines := by
  refine ⟨_, _, rfl, ?_⟩
  simp [tableHeading]

theorem TableGroup.isBlock_lines (g : TableGroup)
    : IsBlock g.lines := by
  refine ⟨_, _, rfl, ?_⟩
  simp [groupHeading]

namespace Schema

/-- The references of a schema as blocks of lines, of which there is at most one. -/
def refBlocks (s : Schema) : List (List String) :=
  if s.refs = [] then [] else [s.refs.map Ref.toText]

/-- The blocks of lines of a written schema. -/
def blocks (s : Schema) : List (List String) :=
  s.tables.map Table.lines ++ s.refBlocks ++ s.groups.map TableGroup.lines

theorem isBlock_of_mem_refBlocks {s : Schema} {ls : List String} (h : ls ∈ s.refBlocks)
    : IsBlock ls := by
  rw [refBlocks] at h
  split at h
  · cases h
  · rename_i hne
    obtain rfl := List.mem_singleton.mp h
    obtain ⟨r, rs, hr⟩ := List.exists_cons_of_ne_nil hne
    rw [hr]
    exact ⟨_, _, rfl, r.toText_ne_empty⟩

/-- The text of a schema is its blocks, but for the empty line before the first one. -/
theorem cons_toText {s : Schema} (h : s.blocks ≠ [])
    : '\n' :: s.toText.toList = ended (spaced s.blocks) := by
  have tables
      : s.tables.map Table.toText = (s.tables.map Table.lines).map ("\n".intercalate ·) := by
    rw [List.map_map]
    exact List.map_congr_left fun t _ => t.toText_eq
  have groups : s.groups.map TableGroup.toText
      = (s.groups.map TableGroup.lines).map ("\n".intercalate ·) := by
    rw [List.map_map]
    exact List.map_congr_left fun g _ => g.toText_eq
  have refs : "\n".intercalate (s.refs.map Ref.toText) = joined s.refBlocks := by
    rw [refBlocks]
    split
    · rename_i hr
      rw [hr]
      rfl
    · simp [joined]
  have hflat : s.blocks
      = [s.tables.map Table.lines, s.refBlocks, s.groups.map TableGroup.lines].flatten := by
    simp [blocks]
  have hblocks : ∀ bs ∈ [s.tables.map Table.lines, s.refBlocks, s.groups.map TableGroup.lines],
      ∀ ls ∈ bs, IsBlock ls := by
    simp only [List.forall_mem_cons]
    refine ⟨?_, fun _ hls => isBlock_of_mem_refBlocks hls, ?_, fun _ hbs => nomatch hbs⟩
    · intro ls hls
      obtain ⟨t, _, rfl⟩ := List.mem_map.mp hls
      exact t.isBlock_lines
    · intro ls hls
      obtain ⟨g, _, rfl⟩ := List.mem_map.mp hls
      exact g.isBlock_lines
  rw [toText, tables, groups, refs, hflat, ← cons_paragraphs_joined hblocks (hflat ▸ h)]
  rfl

end Schema
end SchemaMarkup
