import SchemaMarkup.Proofs.Markup.Wording

/-! Lines that look like the heading of a table. In the text of tables without constraints these are
the headings and the lines of fields that are called by the keyword.
-/

namespace SchemaMarkup

open Text Markup

namespace Markup

/-- No blank follows a keyword that begins a word of which it is not the whole. -/
theorem someBlanks_of_keyword {ks w rest cs : List Char}
    (h : Scan.keyword ks (w ++ ' ' :: rest) = some cs) (word : ∀ c ∈ w, isWord c = true)
    (other : w.map foldCase ≠ ks.map foldCase) (letters : foldCase ' ' ∉ ks.map foldCase)
    : Scan.someBlanks cs = none := by
  have space : ∀ c ∈ (' ' :: rest).head?, foldCase c ∉ ks.map foldCase := by
    intro c hc
    obtain rfl := Option.some.inj hc
    exact letters
  obtain ⟨u, v, rfl, rfl, spelled⟩ := Scan.keyword_append h space
  cases v with
  | nil => exact absurd spelled (by simpa using other)
  | cons d v =>
      have visible : isBlank d = false := isBlank_of_isWord (word d (by simp))
      simp [Scan.someBlanks, visible]

/-- The heading of a table is found by the name of the table. -/
theorem tableLineName?_tableHeading {name : String} (h : IsName name)
    : tableLineName? (tableHeading name ++ " \x7b").toList = some name := by
  simp only [tableLineName?, blanks_tableHeading, keyword_tableHeading, Scan.someBlanks_writeName,
    dottedName_tableHeading h, Option.bind_eq_bind, Option.bind_some, String.ofList_toList,
    readName_writeName]
  rfl

end Markup

namespace Field

/-- Whether the line of a field looks like the heading of a table: the field is called by the
keyword, in any case, and its type is the name of the table.
-/
def ResemblesHeading (f : Field) (name : String) : Prop :=
  f.name.toList.map foldCase = ['t', 'a', 'b', 'l', 'e'] ∧ f.type = name

instance (f : Field) (name : String) : Decidable (f.ResemblesHeading name) :=
  inferInstanceAs (Decidable (_ ∧ _))

variable {f : Field} {name : String}

/-- The line of a field that is called by the keyword is taken for the heading of its type. -/
theorem tableLineName?_of_keyword (h : f.IsSimple)
    (named : f.name.toList.map foldCase = ['t', 'a', 'b', 'l', 'e'])
    : tableLineName? f.line = some f.type := by
  have word : isWordText f.name = true := by
    have letters : ∀ c ∈ f.name.toList, foldCase c ∈ ['t', 'a', 'b', 'l', 'e'] := fun c hc =>
      named ▸ List.mem_map_of_mem hc
    have alpha : ['t', 'a', 'b', 'l', 'e'].all Char.isAlpha = true := by decide
    exact isWordText_iff.mpr ⟨h.name.isName.toList_ne_nil,
      fun c hc => isWord_of_foldCase (List.all_eq_true.mp alpha _ (letters c hc))⟩
  have hkey : Scan.keyword ['t', 'a', 'b', 'l', 'e']
      ((writeName f.name).toList ++ ' ' :: (f.type.toList ++ f.bracketed))
        = some (' ' :: (f.type.toList ++ f.bracketed)) := by
    rw [writeName, if_pos word]
    exact Scan.keyword_eq_some_iff.mpr ⟨_, rfl, named⟩
  -- The type is a word, so it stands on the line as a written name would.
  have written : writeName f.type = f.type := by rw [writeName, if_pos h.type]
  have hgap := Scan.someBlanks_writeName f.type f.bracketed
  have hname : Scan.dottedName ((writeName f.type).toList ++ f.bracketed)
      = some ((writeName f.type).toList, f.bracketed) := by
    refine Scan.dottedName_writeName (plainName_of_word h.type).isName _ fun d hd => ?_
    rw [bracketed] at hd
    split at hd
    · cases hd
    · obtain rfl := Option.some.inj hd
      decide
  have hread := readName_writeName f.type
  rw [written] at hgap hname hread
  rw [tableLineName?, blanks_line, toList_toText]
  simp only [hkey, hgap, hname, Option.bind_eq_bind, Option.bind_some, String.ofList_toList, hread]
  rfl

/-- The line of any other field is taken for no heading. -/
theorem tableLineName?_of_not_keyword
    (named : f.name.toList.map foldCase ≠ ['t', 'a', 'b', 'l', 'e'])
    : tableLineName? f.line = none := by
  rw [tableLineName?, blanks_line, toList_toText]
  rcases toList_writeName f.name with ⟨word, he⟩ | he
  · rw [he]
    cases hk : Scan.keyword ['t', 'a', 'b', 'l', 'e']
        (f.name.toList ++ ' ' :: (f.type.toList ++ f.bracketed)) with
    | none => rfl
    | some cs =>
        have gap : Scan.someBlanks cs = none :=
          someBlanks_of_keyword hk (isWordText_iff.mp word).2 named (by decide)
        simp [gap]
  · have hk (cs : List Char) : Scan.keyword ['t', 'a', 'b', 'l', 'e'] ('"' :: cs) = none :=
      if_neg (by decide)
    simp [he, hk]

/-- A field line is taken for the heading of a table just if it looks like it. -/
theorem tableLineName?_line (h : f.IsSimple)
    : tableLineName? f.line = some name ↔ f.ResemblesHeading name := by
  by_cases named : f.name.toList.map foldCase = ['t', 'a', 'b', 'l', 'e']
  · rw [tableLineName?_of_keyword h named, ResemblesHeading, Option.some_inj,
      and_iff_right named]
  · rw [tableLineName?_of_not_keyword named, ResemblesHeading]
    exact iff_of_false nofun fun h => named h.1

end Field

namespace Table

variable {t : Table} {name : String}

/-- Inside a table, the lines of certain fields alone are taken for headings. -/
theorem IsSimple.tableLineName?_bodyLines (h : t.IsSimple) {l : String} (hl : l ∈ t.bodyLines)
    (found : tableLineName? l.toList = some name)
    : ∃ f ∈ t.fields, f.ResemblesHeading name ∧ l = indent ++ f.toText := by
  rcases List.mem_append.mp hl with hl | hl
  · obtain ⟨note, _, rfl⟩ := List.mem_map.mp hl
    rw [String.toList_append, toList_noteText] at found
    cases found
  · obtain ⟨f, hf, rfl⟩ := List.mem_map.mp hl
    exact ⟨f, hf, (Field.tableLineName?_line (h.fields f hf)).mp found, rfl⟩

theorem mem_spaced {ts : List Table} {l : String}
    : l ∈ spaced (ts.map Table.lines) ↔ ∃ u ∈ ts, l = "" ∨ l ∈ u.lines := by
  rw [spaced, List.flatMap_map, List.mem_flatMap]
  simp only [List.mem_cons]

/-- The lines of tables that are taken for the heading of another table. -/
theorem tableLineName?_spaced {ts : List Table} (simple : ∀ u ∈ ts, u.IsSimple)
    (other : name ∉ ts.map Table.name) {l : String} (hl : l ∈ spaced (ts.map Table.lines))
    (found : tableLineName? l.toList = some name)
    : ∃ u ∈ ts, ∃ f ∈ u.fields, f.ResemblesHeading name ∧ l = indent ++ f.toText := by
  obtain ⟨u, hu, hl⟩ := mem_spaced.mp hl
  rw [lines_eq] at hl
  simp only [List.mem_cons, List.mem_append, List.not_mem_nil, or_false] at hl
  rcases hl with rfl | rfl | hl | rfl
  · cases found
  · rw [tableLineName?_tableHeading (simple u hu).name.isName] at found
    exact absurd (Option.some.inj found ▸ List.mem_map_of_mem hu) other
  · exact ⟨u, hu, (simple u hu).tableLineName?_bodyLines hl found⟩
  · cases found

end Table
end SchemaMarkup
