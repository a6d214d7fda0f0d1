import SchemaMarkup.Markup.Fragment
import SchemaMarkup.Proofs.Markup.Repeats
import SchemaMarkup.Proofs.Text.Lines

/-! What the lines of written tables say. The marks around names and notes, and types that are
words, hold neither white space other than spaces nor, but for the braces of the block itself, any
brace. So both stand on the lines of a table just where its names and notes hold them.
-/

namespace SchemaMarkup

open Text Markup

-----------------------------------------------------------------------------------------
-- Simple tables and what they say
-----------------------------------------------------------------------------------------

/-- Whether a field has a plain name, a word for its type, no constraints and a note of one line, if
any.
-/
structure Field.IsSimple (f : Field) : Prop where
  name : PlainName f.name
  type : isWordText f.type = true
  unconstrained : f.constraints = []
  note : ∀ n ∈ f.note, '\n' ∉ n.toList

instance (f : Field) : Decidable f.IsSimple :=
  decidable_of_iff (PlainName f.name ∧ isWordText f.type = true ∧ f.constraints = []
      ∧ ∀ n ∈ f.note, '\n' ∉ n.toList)
    ⟨fun h => ⟨h.1, h.2.1, h.2.2.1, h.2.2.2⟩,
      fun h => ⟨h.name, h.type, h.unconstrained, h.note⟩⟩

/-- Whether a table has a plain name, a note of one line, if any, and simple fields. -/
structure Table.IsSimple (t : Table) : Prop where
  name : PlainName t.name
  note : ∀ n ∈ t.note, '\n' ∉ n.toList
  fields : ∀ f ∈ t.fields, f.IsSimple

instance (t : Table) : Decidable t.IsSimple :=
  decidable_of_iff (PlainName t.name ∧ (∀ n ∈ t.note, '\n' ∉ n.toList) ∧ ∀ f ∈ t.fields, f.IsSimple)
    ⟨fun h => ⟨h.1, h.2.1, h.2.2⟩, fun h => ⟨h.name, h.note, h.fields⟩⟩

/-- The name of a field and its note. -/
def Field.wording (f : Field) : List Char :=
  f.name.toList ++ (f.note.getD "").toList

/-- What the lines inside the block of a table say: its note, and the names and notes of its fields.
-/
def Table.inside (t : Table) : List (List Char) :=
  t.note.toList.map String.toList ++ t.fields.map Field.wording

/-- What the lines of a table say, but for the last one, which says nothing. -/
def Table.wording (t : Table) : List (List Char) :=
  t.name.toList :: t.inside

-----------------------------------------------------------------------------------------
-- Braces and white space
-----------------------------------------------------------------------------------------

namespace Markup

/-- Whether a character is a brace or white space other than a space. -/
def isTelling (c : Char) : Bool :=
  c = '\x7b' || c = '\x7d' || isBlank c && c ≠ ' '

theorem filter_word {w : List Char} (h : ∀ c ∈ w, isWord c = true)
    : w.filter isTelling = [] := by
  rw [List.filter_eq_nil_iff]
  intro c hc
  have blank : isBlank c = false := isBlank_of_isWord (h c hc)
  have opening : c ≠ '\x7b' := ne_of_isWord (h c hc) (by decide)
  have closing : c ≠ '\x7d' := ne_of_isWord (h c hc) (by decide)
  simp [isTelling, blank, opening, closing]

theorem filter_writeName (name : String)
    : (writeName name).toList.filter isTelling = name.toList.filter isTelling := by
  have quote : isTelling '"' = false := by decide
  rcases toList_writeName name with ⟨_, he⟩ | he
  · rw [he]
  · simp [he, quote]

/-- What is escaped holds backslashes besides, by induction. -/
theorem filter_escape (cs : List Char)
    : (Literal.escape cs).filter isTelling = cs.filter isTelling := by
  have backslash : isTelling '\\' = false := by decide
  induction cs with
  | nil => rfl
  | cons c cs ih =>
      rw [Literal.escape]
      split
      · simp [List.filter_cons, backslash, ih]
      · simp [List.filter_cons, ih]

theorem filter_noteText (note : String)
    : (noteText note).toList.filter isTelling = note.toList.filter isTelling := by
  have keyword : ['N', 'o', 't', 'e', ':', ' '].filter isTelling = [] := by decide
  have triple : tripleQuote.filter isTelling = [] := by decide
  have quote : isTelling '"' = false := by decide
  rw [toList_noteText, List.filter_append, keyword, List.nil_append, Literal.toList_encode]
  split
  · simp [Literal.block, triple]
  · simp [Literal.line, quote, filter_escape]

theorem filter_indent (line : String)
    : (indent ++ line).toList.filter isTelling = line.toList.filter isTelling := by
  have spaces : indent.toList.filter isTelling = [] := by decide
  rw [String.toList_append, List.filter_append, spaces, List.nil_append]

theorem filter_tableHeading (name : String)
    : (tableHeading name ++ " \x7b").toList.filter isTelling
      = (name.toList ++ ['\x7b']).filter isTelling := by
  have keyword : ['T', 'a', 'b', 'l', 'e', ' '].filter isTelling = [] := by decide
  have brace : " \x7b".toList.filter isTelling = ['\x7b'].filter isTelling := by decide
  rw [String.toList_append, toList_tableHeading, List.filter_append, List.filter_append, keyword,
    filter_writeName, brace, List.filter_append, List.nil_append]

/-- Line boundaries are all found among the braces and white space. -/
theorem isUnbroken_filter {cs : List Char}
    : IsUnbroken (cs.filter isTelling) ↔ IsUnbroken cs := by
  constructor
  · intro h c hc
    by_contra ends
    rw [Bool.not_eq_false] at ends
    obtain ⟨blank, space⟩ := isBlank_of_isLineEnd ends
    have telling : isTelling c = true := by simp [isTelling, blank, space]
    exact absurd (h c (List.mem_filter.mpr ⟨hc, telling⟩)) (by simp [ends])
  · exact fun h c hc => h c (List.mem_filter.mp hc).1

theorem mem_filter_newline {cs : List Char}
    : '\n' ∈ cs.filter isTelling ↔ '\n' ∈ cs := by
  rw [List.mem_filter, and_iff_left (by decide)]

theorem braceBalance_filter (cs : List Char)
    : braceBalance (cs.filter isTelling) = braceBalance cs := by
  have opening : isTelling '\x7b' = true := by decide
  have closing : isTelling '\x7d' = true := by decide
  rw [braceBalance, braceBalance, List.count_filter opening, List.count_filter closing]

theorem braceBalance_append (cs ds : List Char)
    : braceBalance (cs ++ ds) = braceBalance cs + braceBalance ds := by
  simp only [braceBalance, List.count_append]
  omega

end Markup

-----------------------------------------------------------------------------------------
-- The lines of simple tables
-----------------------------------------------------------------------------------------

/-- The braces and white space of a field line are those of its name and note. -/
theorem Field.IsSimple.filter_line {f : Field} (h : f.IsSimple)
    : (indent ++ f.toText).toList.filter isTelling = f.wording.filter isTelling := by
  have type : f.type.toList.filter isTelling = [] := filter_word (isWordText_iff.mp h.type).2
  have space : isTelling ' ' = false := by decide
  have bracket : isTelling '[' = false := by decide
  have bracket' : isTelling ']' = false := by decide
  have note : f.bracketed.filter isTelling = (f.note.getD "").toList.filter isTelling := by
    rw [bracketed, inner, allConstraints, h.unconstrained]
    cases f.note with
    | none => rfl
    | some note => simp [space, bracket, bracket', filter_noteText]
  rw [filter_indent, toList_toText, wording, List.filter_append, List.filter_append,
    filter_writeName, List.filter_cons, if_neg (by simp [space]), List.filter_append, type, note,
    List.nil_append]

/-- The lines inside the block of a table. -/
def Table.bodyLines (t : Table) : List String :=
  t.note.toList.map (fun note => indent ++ noteText note)
    ++ t.fields.map fun f => indent ++ f.toText

theorem Table.lines_eq (t : Table)
    : t.lines = (tableHeading t.name ++ " \x7b") :: (t.bodyLines ++ ["\x7d"]) :=
  rfl

namespace Table.IsSimple

variable {t : Table}

/-- The braces and white space inside the block of a table are those of what its lines say. -/
theorem filter_bodyLines (h : t.IsSimple)
    : t.bodyLines.map (fun l => l.toList.filter isTelling)
      = t.inside.map (fun w => w.filter isTelling) := by
  have note : t.note.toList.map (fun note => (indent ++ noteText note).toList.filter isTelling)
      = t.note.toList.map fun note => note.toList.filter isTelling :=
    List.map_congr_left fun note _ => (filter_indent _).trans (filter_noteText note)
  have fields : t.fields.map (fun f => (indent ++ f.toText).toList.filter isTelling)
      = t.fields.map fun f => f.wording.filter isTelling :=
    List.map_congr_left fun f hf => (h.fields f hf).filter_line
  simp only [bodyLines, inside, List.map_append, List.map_map, Function.comp_def, note, fields]

/-- Something that braces and white space decide holds of the lines if it holds of what they say. -/
theorem forall_lines_iff (h : t.IsSimple) (p : List Char → Prop)
    (telling : ∀ cs, p (cs.filter isTelling) ↔ p cs)
    : (∀ l ∈ t.lines, p l.toList)
      ↔ p (t.name.toList ++ ['\x7b']) ∧ (∀ w ∈ t.inside, p w) ∧ p ['\x7d'] := by
  have heading : p (tableHeading t.name ++ " \x7b").toList ↔ p (t.name.toList ++ ['\x7b']) := by
    rw [← telling, filter_tableHeading, telling]
  have body : (∀ l ∈ t.bodyLines, p l.toList) ↔ ∀ w ∈ t.inside, p w := by
    have mapped := congrArg (fun ws => ∀ w ∈ ws, p w) h.filter_bodyLines
    simpa only [List.forall_mem_map, telling, eq_iff_iff] using mapped
  have closing : "\x7d".toList = ['\x7d'] := rfl
  rw [lines_eq, List.forall_mem_cons, List.forall_mem_append, List.forall_mem_singleton, heading,
    body, closing]

/-- The lines of a table are unbroken if what they say is. -/
theorem isUnbroken_lines (h : t.IsSimple)
    : (∀ l ∈ t.lines, IsUnbroken l.toList) ↔ ∀ w ∈ t.wording, IsUnbroken w := by
  have heading : IsUnbroken (t.name.toList ++ ['\x7b']) ↔ IsUnbroken t.name.toList := by
    rw [IsUnbroken, List.forall_mem_append, List.forall_mem_singleton, and_iff_left (by decide),
      IsUnbroken]
  have closing : IsUnbroken ['\x7d'] := by decide
  rw [h.forall_lines_iff IsUnbroken fun _ => isUnbroken_filter, heading, and_iff_left closing,
    wording, List.forall_mem_cons]

/-- The lines of a table are lines, since names and notes are. -/
theorem newline_notMem_lines (h : t.IsSimple)
    : ∀ l ∈ t.lines, '\n' ∉ l.toList := by
  refine (h.forall_lines_iff ('\n' ∉ ·) fun _ => not_congr mem_filter_newline).mpr
    ⟨?_, ?_, by decide⟩
  · simpa using fun hm => (h.name.chars _ hm).2.2 rfl
  · intro w hw
    rcases List.mem_append.mp hw with hw | hw
    · obtain ⟨note, hn, rfl⟩ := List.mem_map.mp hw
      exact h.note note (Option.mem_toList.mp hn)
    · obtain ⟨f, hf, rfl⟩ := List.mem_map.mp hw
      intro hm
      rcases List.mem_append.mp hm with hm | hm
      · exact ((h.fields f hf).name.chars _ hm).2.2 rfl
      · cases hn : f.note with
        | none => simp [hn] at hm
        | some note => exact (h.fields f hf).note note hn (by simpa [hn] using hm)

end Table.IsSimple
end SchemaMarkup
