import Mathlib.Algebra.Ring.Int.Defs
import Mathlib.Data.List.Infix
import SchemaMarkup.Proofs.Markup.HeadingLines
import SchemaMarkup.Proofs.Markup.SchemaRepeats

/-! Cutting a table out of a written schema. Its lines are found by their heading and counted up to
the brace that closes its block, without regard to quotes. So the cut gives the block of the table
just if no earlier line looks like that heading and the braces in names and notes neither close the
block early nor keep it open.
-/

namespace SchemaMarkup

open Text Markup

namespace Markup

-----------------------------------------------------------------------------------------
-- The lines up to the end of a block
-----------------------------------------------------------------------------------------

theorem linesToBlockEnd_eq_nil_iff {depth : Int} {opened : Bool} {ls : List String}
    : linesToBlockEnd depth opened ls = [] ↔ ls = [] := by
  cases ls with
  | nil => exact iff_of_true rfl rfl
  | cons l ls =>
      rw [linesToBlockEnd]
      split
      · simp
      · simp

/-- A block is cut out of lines from the first one on, by induction. -/
theorem isPrefix_linesToBlockEnd (depth : Int) (opened : Bool) (ls : List String)
    : linesToBlockEnd depth opened ls <+: ls := by
  induction ls generalizing depth opened with
  | nil => exact List.prefix_rfl
  | cons l ls ih =>
      rw [linesToBlockEnd]
      split
      · exact List.cons_prefix_cons.mpr ⟨rfl, List.nil_prefix⟩
      · exact List.cons_prefix_cons.mpr ⟨rfl, ih _ _⟩

/-- Sums that start from a number stay positive if it is and those that start one further on do. -/
theorem forall_inits_cons {start number : Int} {numbers : List Int}
    : (∀ sums ∈ (number :: numbers).inits, 0 < start + sums.sum)
      ↔ 0 < start ∧ ∀ sums ∈ numbers.inits, 0 < start + number + sums.sum := by
  simp only [List.inits_cons, List.forall_mem_cons, List.forall_mem_map, List.sum_nil,
    List.sum_cons, Int.add_zero, Int.add_assoc]

/-- Inside a block, lines are cut behind the last of some lines if none before it closes the block,
and it does or is the last of all. The induction is on the lines before it.
-/
theorem linesToBlockEnd_eq_iff {depth : Int} (within : 0 < depth) {ls more : List String}
    {last : String}
    : linesToBlockEnd depth true (ls ++ last :: more) = ls ++ [last]
      ↔ (∀ braces ∈ (ls.map fun l => braceBalance l.toList).inits, 0 < depth + braces.sum)
        ∧ (depth + (ls.map fun l => braceBalance l.toList).sum + braceBalance last.toList ≤ 0
          ∨ more = []) := by
  induction ls generalizing depth with
  | nil =>
      by_cases closes : depth + braceBalance last.toList ≤ 0
      · simp [linesToBlockEnd, closes, within]
      · simp [linesToBlockEnd, closes, within, linesToBlockEnd_eq_nil_iff]
  | cons l ls ih =>
      rw [List.map_cons, forall_inits_cons, List.sum_cons, ← Int.add_assoc, and_iff_right within]
      by_cases closes : depth + braceBalance l.toList ≤ 0
      · refine iff_of_false (by simp [linesToBlockEnd, closes]) ?_
        rintro ⟨later, _⟩
        have start := later [] (by simp)
        rw [List.sum_nil] at start
        omega
      · rw [← ih (not_le.mp closes)]
        simp [linesToBlockEnd, closes]

end Markup

namespace Table

variable {t : Table} {name : String}

/-- Whether no line ends within the names and notes of a table. -/
def IsUnbroken (t : Table) : Prop :=
  ∀ w ∈ t.wording, Text.IsUnbroken w

instance (t : Table) : Decidable t.IsUnbroken :=
  inferInstanceAs (Decidable (∀ w ∈ t.wording, Text.IsUnbroken w))

/-- The braces opened less those closed in what each line of a table says. -/
def looseBraces (t : Table) : List Int :=
  t.wording.map braceBalance

namespace IsSimple

/-- The block of a table is cut behind its last line if the braces in its names and notes never
close more than they open, and close all of them unless no line follows.
-/
theorem linesToBlockEnd_lines (h : t.IsSimple) (more : List String)
    : linesToBlockEnd 0 false (t.lines ++ more) = t.lines
      ↔ (∀ braces ∈ t.looseBraces.inits, 0 ≤ braces.sum)
        ∧ (t.looseBraces.sum = 0 ∨ more = []) := by
  have heading : braceBalance (tableHeading t.name ++ " \x7b").toList
      = 1 + braceBalance t.name.toList := by
    rw [← braceBalance_filter, filter_tableHeading, braceBalance_filter, braceBalance_append,
      Int.add_comm]
    rfl
  have opens : (tableHeading t.name ++ " \x7b").toList.contains '\x7b' = true := by simp
  have closing : braceBalance "\x7d".toList = -1 := rfl
  have body : t.bodyLines.map (fun l => braceBalance l.toList) = t.inside.map braceBalance := by
    simpa [Function.comp_def, braceBalance_filter]
      using congrArg (List.map braceBalance) h.filter_bodyLines
  have positive (sums : List Int) : 0 ≤ sums.sum ↔ 0 < 1 + sums.sum := by omega
  have brace : (0 : Int) < 1 := by decide
  rw [looseBraces, wording, List.map_cons, List.sum_cons]
  simp only [positive]
  rw [forall_inits_cons, and_iff_right brace, lines_eq, List.cons_append, List.append_assoc,
    List.singleton_append, linesToBlockEnd, heading, opens, Int.zero_add, Bool.or_true]
  by_cases early : 1 + braceBalance t.name.toList ≤ 0
  · refine iff_of_false (by simp [early]) ?_
    rintro ⟨later, _⟩
    have start := later [] (by simp)
    rw [List.sum_nil] at start
    omega
  · have within : 0 < 1 + braceBalance t.name.toList := not_le.mp early
    rw [if_neg (by simp [within]), List.cons_inj_right, linesToBlockEnd_eq_iff within, body,
      closing]
    refine and_congr_right fun later => or_congr_left ?_
    have all := later _ (List.mem_inits _ _ |>.mpr List.prefix_rfl)
    omega

end IsSimple

end Table

namespace Markup

/-- The lines from the first heading of a table on. -/
def linesFromHeading (text name : String) : List String :=
  (Text.lines text).dropWhile (tableLineName? ·.toList ≠ some name)

theorem linesFromHeading_suffix (text name : String)
    : linesFromHeading text name <:+ Text.lines text :=
  List.dropWhile_suffix _

/-- An empty line before a text is passed over in looking for a heading. -/
theorem linesFromHeading_eq {text name : String} {ls : List String}
    (h : "" :: Text.lines text = ls)
    : linesFromHeading text name = ls.dropWhile (tableLineName? ·.toList ≠ some name) := by
  rw [← h, List.dropWhile_cons_of_pos (by rfl), linesFromHeading]

/-- The lines cut out for a table are lines of the text. -/
theorem mem_lines_of_cut {text name l : String}
    (h : l ∈ linesToBlockEnd 0 false (linesFromHeading text name))
    : l ∈ Text.lines text :=
  (linesFromHeading_suffix text name).subset ((isPrefix_linesToBlockEnd 0 false _).subset h)

/-- A table is cut out of a text just if the lines cut out are its lines. -/
theorem tableText?_eq_iff {t : Table} (h : t.IsSimple) (text name : String)
    : tableText? text name = some t.toText
      ↔ linesToBlockEnd 0 false (linesFromHeading text name) = t.lines := by
  have lined : t.lines ≠ [] := List.cons_ne_nil _ _
  have cut : tableText? text name
      = if linesFromHeading text name = [] then none
        else some ("\n".intercalate (linesToBlockEnd 0 false (linesFromHeading text name))) := by
    rw [tableText?, linesFromHeading]
    split
    · rename_i none
      rw [none]
      rfl
    · rename_i l ls some
      rw [some]
      rfl
  rw [cut]
  split
  · rename_i none
    rw [none]
    exact iff_of_false nofun fun he => lined he.symm
  · rename_i some
    rw [Option.some_inj, t.toText_eq]
    constructor
    · intro joined
      refine intercalate_newline_inj ?_ h.newline_notMem_lines ?_ lined joined
      · exact fun m hm => (isUnbroken_of_mem_lines (mem_lines_of_cut hm)).newline_notMem
      · exact fun he => some (linesToBlockEnd_eq_nil_iff.mp he)
    · exact congrArg _

end Markup

namespace Schema

/-- Whether the lines cut out of a schema for a table are those of its block. No field of an earlier
table must look like its heading and no line end within its names and notes, and the braces in these
must not close the block before its end nor, where lines follow, keep it open.
-/
structure CutsWhole (s : Schema) (before : List Table) (t : Table) (after : List Table) : Prop where
  headed : ∀ u ∈ before, ∀ f ∈ u.fields, ¬ f.ResemblesHeading t.name
  unbroken : t.IsUnbroken
  staysOpen : ∀ braces ∈ t.looseBraces.inits, 0 ≤ braces.sum
  closes : t.looseBraces.sum = 0 ∨ after = [] ∧ s.refs = [] ∧ s.groups = []

instance (s : Schema) (before : List Table) (t : Table) (after : List Table)
    : Decidable (s.CutsWhole before t after) :=
  decidable_of_iff ((∀ u ∈ before, ∀ f ∈ u.fields, ¬ f.ResemblesHeading t.name) ∧ t.IsUnbroken
      ∧ (∀ braces ∈ t.looseBraces.inits, 0 ≤ braces.sum)
      ∧ (t.looseBraces.sum = 0 ∨ after = [] ∧ s.refs = [] ∧ s.groups = []))
    ⟨fun h => ⟨h.1, h.2.1, h.2.2.1, h.2.2.2⟩,
      fun h => ⟨h.headed, h.unbroken, h.staysOpen, h.closes⟩⟩

variable {s : Schema} {before after : List Table} {t : Table}

/-- The lines of a written schema of which the first blocks are unbroken are those of these blocks
and those of the rest.
-/
theorem lines_toText {first more : List (List String)} (split : s.blocks = first ++ more)
    (some : s.blocks ≠ []) (unbroken : ∀ l ∈ spaced first, IsUnbroken l.toList)
    : "" :: Text.lines s.toText
      = spaced first ++ (linesAfter [] (ended (spaced more))).map String.ofList := by
  have chars : '\n' :: s.toText.toList
      = ((spaced first).map String.toList).flatMap (· ++ ['\n']) ++ ended (spaced more) := by
    rw [cons_toText some, split, spaced, List.flatMap_append, ended, List.flatMap_append,
      List.flatMap_map]
    rfl
  have firstLine : linesAfter [] ('\n' :: s.toText.toList) = [] :: linesAfter [] s.toText.toList :=
    linesAfter_append isUnbroken_nil [] _
  rw [chars, linesAfter_flatMap (by simpa using unbroken)] at firstLine
  have lines := congrArg (List.map String.ofList) firstLine
  simpa [Text.lines, Function.comp_def] using lines.symm

theorem isUnbroken_spaced {ts : List Table} (simple : ∀ u ∈ ts, u.IsSimple)
    (unbroken : ∀ u ∈ ts, u.IsUnbroken)
    : ∀ l ∈ spaced (ts.map Table.lines), IsUnbroken l.toList := by
  intro l hl
  obtain ⟨u, hu, rfl | hl⟩ := Table.mem_spaced.mp hl
  · exact isUnbroken_nil
  · exact (simple u hu).isUnbroken_lines.mpr (unbroken u hu) l hl

theorem ended_spaced_eq_nil_iff {blocks : List (List String)}
    : ended (spaced blocks) = [] ↔ blocks = [] := by
  cases blocks with
  | nil => exact iff_of_true rfl rfl
  | cons ls blocks => exact iff_of_false (List.cons_ne_nil _ _) (List.cons_ne_nil _ _)

/-- The blocks of a schema, split at one of its tables. -/
theorem blocks_split (split : s.tables = before ++ t :: after)
    : s.blocks = before.map Table.lines ++ t.lines :: { s with tables := after }.blocks := by
  simp [blocks, refBlocks, split]

section

variable (split : s.tables = before ++ t :: after) (simple : ∀ u ∈ before, u.IsSimple)
  (other : t.name ∉ before.map Table.name) (apart : ∀ u ∈ before, u.IsUnbroken)

include split simple other apart

/-- If a field of an earlier table looks like the heading of a table, the lines from the first
heading on begin with the line of such a field.
-/
theorem linesFromHeading_of_resembles {u : Table} {f : Field} (hu : u ∈ before) (hf : f ∈ u.fields)
    (resembles : f.ResemblesHeading t.name)
    : ∃ g ls, linesFromHeading s.toText t.name = (indent ++ Field.toText g) :: ls := by
  have blocks := blocks_split split
  have lines := lines_toText blocks (by simp [blocks]) (isUnbroken_spaced simple apart)
  have member : indent ++ f.toText ∈ u.lines := by
    have body : indent ++ f.toText ∈ u.bodyLines :=
      List.mem_append_right _ (List.mem_map_of_mem hf)
    simp [u.lines_eq, body]
  have member : indent ++ f.toText ∈ spaced (before.map Table.lines) :=
    Table.mem_spaced.mpr ⟨u, hu, .inr member⟩
  have found : tableLineName? (indent ++ f.toText).toList = some t.name :=
    (Field.tableLineName?_line ((simple u hu).fields f hf)).mpr resembles
  rw [linesFromHeading_eq lines, List.dropWhile_append]
  cases first : (spaced (before.map Table.lines)).dropWhile
      (tableLineName? ·.toList ≠ some t.name) with
  | nil =>
      have passed := List.dropWhile_eq_nil_iff.mp first _ member
      exact absurd found (of_decide_eq_true passed)
  | cons l ls =>
      have hl : l ∈ spaced (before.map Table.lines) :=
        (List.dropWhile_suffix _).subset (first ▸ List.mem_cons_self)
      have stopped := List.head?_dropWhile_not (tableLineName? ·.toList ≠ some t.name)
        (spaced (before.map Table.lines))
      rw [first] at stopped
      have found : tableLineName? l.toList = some t.name := by simpa using stopped
      obtain ⟨_, _, g, _, _, rfl⟩ := Table.tableLineName?_spaced simple other hl found
      exact ⟨g, _, rfl⟩

/-- If no earlier field looks like the heading of a table, the lines from the first heading on are
those of the table and those of what follows it, of which there are some if anything does.
-/
theorem linesFromHeading_toText (ht : t.IsSimple) (unbroken : t.IsUnbroken)
    (headed : ∀ u ∈ before, ∀ f ∈ u.fields, ¬ f.ResemblesHeading t.name)
    : ∃ more, linesFromHeading s.toText t.name = t.lines ++ more
        ∧ (more = [] ↔ after = [] ∧ s.refs = [] ∧ s.groups = []) := by
  have blocks : s.blocks
      = (before ++ [t]).map Table.lines ++ { s with tables := after }.blocks := by
    simp [blocks_split split]
  have apartAll : ∀ l ∈ spaced ((before ++ [t]).map Table.lines), IsUnbroken l.toList := by
    apply isUnbroken_spaced
    · simpa [or_imp, forall_and] using ⟨simple, ht⟩
    · simpa [or_imp, forall_and] using ⟨apart, unbroken⟩
  have lines := lines_toText blocks (by simp [blocks]) apartAll
  have passed : ∀ l ∈ spaced (before.map Table.lines) ++ [""],
      decide (tableLineName? l.toList ≠ some t.name) = true := by
    intro l hl
    rw [decide_eq_true_iff]
    intro found
    rcases List.mem_append.mp hl with hl | hl
    · obtain ⟨u, hu, f, hf, resembles, _⟩ := Table.tableLineName?_spaced simple other hl found
      exact headed u hu f hf resembles
    · obtain rfl := List.mem_singleton.mp hl
      cases found
  have found : tableLineName? (tableHeading t.name ++ " \x7b").toList = some t.name :=
    tableLineName?_tableHeading ht.name.isName
  refine ⟨(linesAfter [] (ended (spaced { s with tables := after }.blocks))).map String.ofList,
    ?_, ?_⟩
  · have splitLines : spaced ((before ++ [t]).map Table.lines)
        = (spaced (before.map Table.lines) ++ [""]) ++ t.lines := by
      simp [spaced]
    rw [linesFromHeading_eq lines, splitLines, List.append_assoc,
      List.dropWhile_append_of_pos passed, t.lines_eq, List.cons_append,
      List.dropWhile_cons_of_neg (by rw [found]; simp)]
  · rw [List.map_eq_nil_iff, linesAfter_eq_nil_iff, and_iff_right rfl, ended_spaced_eq_nil_iff,
      blocks_eq_nil_iff]

end

/-- A table is cut out of a written schema as it is written just if nothing before it looks like its
heading and the braces in its names and notes stay within its block.
-/
theorem tableText?_toText_iff (split : s.tables = before ++ t :: after)
    (simple : ∀ u ∈ s.tables, u.IsSimple) (distinct : s.tableNames.Nodup)
    (apart : ∀ u ∈ before, u.IsUnbroken)
    : tableText? s.toText t.name = some t.toText ↔ s.CutsWhole before t after := by
  have ht : t.IsSimple := simple t (by simp [split])
  have simple : ∀ u ∈ before, u.IsSimple := fun u hu => simple u (by simp [split, hu])
  have other : t.name ∉ before.map Table.name := by
    rw [tableNames, split, List.map_append, List.nodup_append] at distinct
    exact fun hm => distinct.2.2 _ hm _ List.mem_cons_self rfl
  rw [tableText?_eq_iff ht]
  constructor
  · intro cut
    have unbroken : t.IsUnbroken := ht.isUnbroken_lines.mp fun l hl =>
      isUnbroken_of_mem_lines (mem_lines_of_cut (cut ▸ hl))
    have headed : ∀ u ∈ before, ∀ f ∈ u.fields, ¬ f.ResemblesHeading t.name := by
      intro u hu f hf resembles
      obtain ⟨g, ls, found⟩ :=
        linesFromHeading_of_resembles split simple other apart hu hf resembles
      -- The lines cut out would begin with an indented one.
      have begins := isPrefix_linesToBlockEnd 0 false (linesFromHeading s.toText t.name)
      rw [cut, found, t.lines_eq] at begins
      have same := congrArg String.toList (List.cons_prefix_cons.mp begins).1
      rw [String.toList_append, toList_tableHeading, String.toList_append] at same
      exact absurd (List.cons.inj same).1 (by decide)
    obtain ⟨more, found, none⟩ :=
      linesFromHeading_toText split simple other apart ht unbroken headed
    rw [found, ht.linesToBlockEnd_lines] at cut
    exact ⟨headed, unbroken, cut.1, cut.2.imp_right none.mp⟩
  · rintro ⟨headed, unbroken, staysOpen, closes⟩
    obtain ⟨more, found, none⟩ :=
      linesFromHeading_toText split simple other apart ht unbroken headed
    rw [found, ht.linesToBlockEnd_lines]
    exact ⟨staysOpen, closes.imp_right none.mpr⟩

/-- A table with a field that is called by the keyword, and with braces in its notes. -/
def dishes : Table where
  name := "dishes"
  note := some "like \x7b name, \"price\" \x7d"
  fields := [
    { name := "id", type := "int" },
    { name := "Table", type := "text", note := some "the word Table \x7b in any case" }]

/-- A table of which the name holds braces, and a note one brace that the next note closes. -/
def orders : Table where
  name := "orders \x7bopen\x7d"
  fields := [
    { name := "since", type := "date", note := some "from \x7b" },
    { name := "until", type := "date", note := some "to \x7d" },
    { name := "table", type := "orders" }]

/-- A schema of these tables, with a reference after them. -/
def tavern : Schema where
  tables := [dishes, orders]
  refs := [⟨"orders \x7bopen\x7d", "since", .manyToOne, "dishes", "id"⟩]

/-- The second of these tables is cut out as it is written. -/
theorem tableText?_toText_iff_tavern
    : tavern.tables = [dishes] ++ orders :: []
      ∧ (∀ u ∈ tavern.tables, u.IsSimple) ∧ tavern.tableNames.Nodup
      ∧ (∀ u ∈ [dishes], u.IsUnbroken)
      ∧ tavern.CutsWhole [dishes] orders []
      ∧ tableText? tavern.toText "orders \x7bopen\x7d" = some orders.toText := by
  have split : tavern.tables = [dishes] ++ orders :: [] := rfl
  have simple : ∀ u ∈ tavern.tables, u.IsSimple := by decide +kernel
  have distinct : tavern.tableNames.Nodup := by decide +kernel
  have apart : ∀ u ∈ [dishes], u.IsUnbroken := by decide +kernel
  have whole : tavern.CutsWhole [dishes] orders [] := by decide +kernel
  exact ⟨split, simple, distinct, apart, whole,
    (tableText?_toText_iff split simple distinct apart).mpr whole⟩

/-- A table with a note that holds a closing brace. -/
def jobs : Table where
  name := "jobs"
  note := some "closed by \x7d"
  fields := [{ name := "id", type := "int" }]

/-- A brace in the note of a table ends the lines that are cut out for the table. -/
theorem tableText?_stops_in_note
    : jobs.IsSimple
      ∧ jobs.toText = "Table jobs \x7b\n  Note: \"closed by \x7d\"\n  id int\n\x7d"
      ∧ tableText? { tables := [jobs] : Schema }.toText "jobs"
        = some "Table jobs \x7b\n  Note: \"closed by \x7d\"" := by
  decide +kernel

end Schema
end SchemaMarkup
