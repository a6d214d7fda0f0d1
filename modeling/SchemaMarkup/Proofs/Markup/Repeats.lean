import SchemaMarkup.Proofs.Markup.Blocks
import SchemaMarkup.Proofs.Markup.Layout
import SchemaMarkup.Proofs.Markup.LogicalLines

/-! What a written line is taken for when repeated lines are dropped. A heading opens its table, a
field line declares its field and a reference its relationship; notes and the lines of groups
declare neither, whatever they say.
-/

namespace SchemaMarkup

open Text Markup

namespace Markup

-----------------------------------------------------------------------------------------
-- Reading lines one after the other
-----------------------------------------------------------------------------------------

/-- What is known when some lines have been read: the table block that is open and the
relationships that were declared.
-/
structure Known where
  block : Option OpenTable := none
  keys : List Relationship := []

/-- Whether reading some lines leaves certain ones of them, and what is known then, whatever
lines follow.
-/
def Leaves (c : Conventions) (k : Known) (ls : List (List Char)) (k' : Known)
    (left : List (List Char)) : Prop :=
  ∀ rest, linesWithoutRepeats c k.block k.keys (ls ++ rest)
    = left ++ linesWithoutRepeats c k'.block k'.keys rest

section

variable {c : Conventions} {k k' k'' : Known} {b b' : Option OpenTable}
  {keys : List Relationship} {line : List Char}

theorem leaves_nil
    : Leaves c k [] k [] :=
  fun _ => rfl

/-- Lines one after the other leave what they leave one after the other. -/
theorem Leaves.append {ls ms left left' : List (List Char)} (hl : Leaves c k ls k' left)
    (hm : Leaves c k' ms k'' left')
    : Leaves c k (ls ++ ms) k'' (left ++ left') := by
  intro rest
  rw [List.append_assoc, hl, hm, List.append_assoc]

/-- A line that declares no relationship and repeats no field is left. -/
theorem leaves_line (hk : declaredKey? c line = none) (hs : OpenTable.step? b line = some b')
    : Leaves c ⟨b, keys⟩ [line] ⟨b', keys⟩ [line] := by
  intro rest
  simp only [List.singleton_append, linesWithoutRepeats, hk, hs]

theorem leaves_nothing (hk : declaredKey? c line = none) (hs : OpenTable.step? b line = none)
    : Leaves c ⟨b, keys⟩ [line] ⟨b, keys⟩ [] := by
  intro rest
  simp only [List.singleton_append, List.nil_append, linesWithoutRepeats, hk, hs]

/-- A line that declares a relationship is left if it is the first to declare it. -/
theorem leaves_new {key : Relationship} (hk : declaredKey? c line = some key) (new : key ∉ keys)
    : Leaves c ⟨b, keys⟩ [line] ⟨b, key :: keys⟩ [line] := by
  intro rest
  simp only [List.singleton_append, linesWithoutRepeats, hk, if_neg new]

theorem leaves_repeated {key : Relationship} (hk : declaredKey? c line = some key)
    (known : key ∈ keys)
    : Leaves c ⟨b, keys⟩ [line] ⟨b, keys⟩ [] := by
  intro rest
  simp only [List.singleton_append, List.nil_append, linesWithoutRepeats, hk, if_pos known]

/-- Outside of tables an empty line is left. -/
theorem leaves_blank
    : Leaves c ⟨none, keys⟩ [[]] ⟨none, keys⟩ [[]] :=
  leaves_line rfl rfl

end

-----------------------------------------------------------------------------------------
-- What a written line is taken for
-----------------------------------------------------------------------------------------

variable {c : Conventions} {keys : List Relationship}

/-- A written table heading opens a table. -/
theorem leaves_heading {name : String} (h : PlainName name)
    : Leaves c ⟨none, keys⟩ [(tableHeading name ++ " \x7b").toList] ⟨some {}, keys⟩
        [(tableHeading name ++ " \x7b").toList] := by
  have hblanks := blanks_tableHeading name " \x7b"
  have hopens : opensTable (tableHeading name ++ " \x7b").toList = true := by
    simp only [opensTable, hblanks, keyword_tableHeading, Scan.someBlanks_writeName,
      dottedName_tableHeading h.isName, Option.bind_eq_bind, Option.bind_some]
    rfl
  have hnone : declaredKey? c (tableHeading name ++ " \x7b").toList = none := by
    rw [declaredKey?, hblanks, toList_tableHeading, List.append_assoc, List.cons_append,
      scanRef_eq_none (by decide)]
    rfl
  have hstep : OpenTable.step? none (tableHeading name ++ " \x7b").toList = some (some {}) := by
    rw [OpenTable.step?, hopens]
    rfl
  exact leaves_line hnone hstep

/-- The closing brace of a table closes it. -/
theorem leaves_closing {declared : List String}
    : Leaves c ⟨some { declared }, keys⟩ ["\x7d".toList] ⟨none, keys⟩ ["\x7d".toList] :=
  leaves_line rfl rfl

/-- A written reference declares the relationship it states from left to right. -/
theorem declaredKey?_toText {r : Ref} (h : r.Plain)
    : declaredKey? c r.toText.toList
      = some (.between c false r.sourceTable r.sourceField r.targetTable r.targetField) := by
  have hend : ∀ d ∈ ([] : List Char).head?, isWord d = false := fun d hd => nomatch hd
  have hscan := scanRef_toText h.named hend
  have hblanks : Scan.blanks r.toText.toList = r.toText.toList := by
    rw [r.toList_toText]
    rfl
  rw [List.append_nil] at hscan
  rw [declaredKey?, hblanks, hscan]
  rfl

end Markup

namespace Field

/-- The line of a field in its table. -/
def line (f : Field) : List Char :=
  (indent ++ f.toText).toList

variable {f : Field}

theorem blanks_line (f : Field)
    : Scan.blanks f.line = f.toText.toList := by
  rw [line, String.toList_append, toList_toText]
  exact Scan.blanks_writeName f.name _

/-- A field line ends with the last character of its type or with a bracket. -/
theorem getLast_line (h : PlainType f.type) {d : Char} (hd : d ∈ f.line.getLast?)
    : d ∈ f.type.toList.getLast? ∨ d = ']' := by
  rw [line, String.toList_append, toList_toText, ← List.append_assoc,
    List.getLast?_append_of_ne_nil _ (List.cons_ne_nil _ _)] at hd
  exact getLast_type (.inl h.nonempty) hd

/-- A field line opens no block. -/
theorem endsWithOpening_line (h : PlainType f.type)
    : endsWithOpening f.line = false := by
  have hr : trimRight f.line = f.line := by
    apply trimRight_eq_self
    intro d hd
    rcases getLast_line h hd with hd | rfl
    · exact (isTrimmed_of_trimmed h.trimmed).2 d hd
    · decide
  rw [endsWithOpening, hr, decide_eq_false_iff_not]
  intro hd
  rcases getLast_line h hd with hd | hd
  · exact h.chars _ (List.mem_of_mem_getLast? hd) (by decide)
  · exact absurd hd (by decide)

/-- A field line closes no block, since no name begins with a brace. -/
theorem closesBlock_line (h : PlainType f.type)
    : closesBlock f.line = false := by
  have ht : trim f.line = f.toText.toList := by
    rw [line, String.toList_append, trim_blank_append blank_indent,
      (isTrimmed_toText (isTrimmed_of_trimmed h.trimmed) (.inl h.nonempty)).trim_eq]
  rw [closesBlock, ht, decide_eq_false_iff_not, toList_toText]
  intro he
  cases hn : (writeName f.name).toList with
  | nil => exact writeName_ne_nil f.name hn
  | cons d ds =>
      rw [hn] at he
      have hd : d = '\x7d' := (List.cons.inj he).1
      have hm : d ∈ (writeName f.name).toList.head? := by
        rw [hn]
        rfl
      subst hd
      rcases head_writeName hm with hw | hw
      · exact absurd hw (by decide)
      · exact absurd hw (by decide)

/-- A field line declares its field. -/
theorem declaredField?_line (hn : PlainName f.name) (ht : PlainType f.type)
    : declaredField? f.line = some f.name := by
  have hspace : ∀ d ∈ (' ' :: (f.type.toList ++ f.bracketed)).head?, isWord d = false := by
    intro d hd
    obtain rfl := Option.some.inj hd
    decide
  obtain ⟨d, ds, hd⟩ := List.exists_cons_of_ne_nil (toList_ne_nil ht.nonempty)
  have hvisible : isBlank d = false := (isTrimmed_of_trimmed ht.trimmed).1 d (by rw [hd]; rfl)
  have hbrace : d ≠ '\x7b' := by
    intro he
    exact ht.chars d (hd ▸ List.mem_cons_self) (by rw [he]; decide)
  have hgap : Scan.someBlanks (' ' :: (f.type.toList ++ f.bracketed))
      = some (d :: (ds ++ f.bracketed)) := by
    rw [hd]
    exact congrArg some (trimLeft_eq_self fun e he => Option.some.inj he ▸ hvisible)
  rw [declaredField?, blanks_line, toList_toText]
  simp only [Scan.name_writeName hn.isName hspace, Option.bind_eq_bind, Option.bind_some, hgap,
    if_neg hbrace, String.ofList_toList, readName_writeName]

/-- What a field line does to its table: it is dropped if it repeats a name, unless that is the name
of a note.
-/
theorem step?_line (hn : PlainName f.name) (ht : PlainType f.type) (declared : List String)
    : OpenTable.step? (some { declared }) f.line
      = if lower f.name = "note" then some (some { declared })
        else if f.name ∈ declared then none
        else some (some { declared := f.name :: declared }) := by
  simp only [OpenTable.step?, closesBlock_line ht, endsWithOpening_line ht,
    declaredField?_line hn ht]
  rfl

/-- A field line declares no relationship. -/
theorem declaredKey?_line (c : Conventions) (ht : PlainType f.type)
    : declaredKey? c f.line = none := by
  rw [declaredKey?, blanks_line, scanRef_toText ht]
  rfl

end Field

namespace Markup

variable {c : Conventions} {keys : List Relationship}

-----------------------------------------------------------------------------------------
-- Lines that declare nothing
-----------------------------------------------------------------------------------------

/-- The note of a table is left, and changes nothing. -/
theorem leaves_note (note : String) (declared : List String)
    : Leaves c ⟨some { declared }, keys⟩ [(indent ++ noteText note).toList]
        ⟨some { declared }, keys⟩ [(indent ++ noteText note).toList] := by
  have hblanks : Scan.blanks (indent ++ noteText note).toList = (noteText note).toList := by
    rw [String.toList_append, toList_noteText]
    rfl
  have hkey : declaredKey? c (indent ++ noteText note).toList = none := by
    rw [declaredKey?, hblanks, toList_noteText, List.cons_append, scanRef_eq_none (by decide)]
    rfl
  have hcloses : closesBlock (indent ++ noteText note).toList = false := by
    rw [closesBlock, String.toList_append, trim_blank_append blank_indent,
      (isTrimmed_noteText note).trim_eq, toList_noteText, decide_eq_false_iff_not]
    exact fun he => absurd (List.cons.inj he).1 (by decide)
  have hne : (noteText note).toList ≠ [] := toList_ne_nil (noteText_ne_empty note)
  have hopens : endsWithOpening (indent ++ noteText note).toList = false := by
    rw [endsWithOpening, String.toList_append,
      trimRight_eq_self (getLast_append (isTrimmed_noteText note).2 hne _),
      List.getLast?_append_of_ne_nil _ hne, decide_eq_false_iff_not]
    exact fun he => absurd (isQuote_getLast_noteText he) (by decide)
  have hfield : declaredField? (indent ++ noteText note).toList = none := by
    rw [declaredField?, hblanks, toList_noteText]
    rfl
  refine leaves_line hkey ?_
  simp only [OpenTable.step?, hcloses, hopens, hfield]
  rfl

/-- Outside of tables a line is left that declares no relationship and opens no table. -/
theorem leaves_outside {ls : List (List Char)}
    (h : ∀ l ∈ ls, declaredKey? c l = none ∧ opensTable l = false)
    : Leaves c ⟨none, keys⟩ ls ⟨none, keys⟩ ls := by
  induction ls with
  | nil => exact leaves_nil
  | cons l ls ih =>
      obtain ⟨hk, ho⟩ := h l List.mem_cons_self
      have hs : OpenTable.step? none l = some none := by
        rw [OpenTable.step?, ho]
        rfl
      exact (leaves_line hk hs).append (ih fun m hm => h m (List.mem_cons_of_mem l hm))

/-- What may follow the name of a member on its line: nothing, or a comment after a blank. -/
def IsRemark (rest : List Char) : Prop :=
  rest = [] ∨ ∃ cs, rest = ' ' :: '/' :: cs

/-- A keyword that begins a word leaves a part of the word. -/
theorem keyword_word {ks w rest cs : List Char} (hk : foldCase ' ' ∉ ks.map foldCase)
    (hw : ∀ d ∈ w, isWord d = true) (hr : IsRemark rest)
    (h : Scan.keyword ks (w ++ rest) = some cs)
    : ∃ v, cs = v ++ rest ∧ ∀ d ∈ v, isWord d = true := by
  have space : ∀ c ∈ rest.head?, foldCase c ∉ ks.map foldCase := by
    intro c hc
    rcases hr with rfl | ⟨ds, rfl⟩
    · cases hc
    · obtain rfl := Option.some.inj hc
      exact hk
  obtain ⟨u, v, rfl, rfl, _⟩ := Scan.keyword_append h space
  exact ⟨v, rfl, fun d hd => hw d (List.mem_append_right u hd)⟩

/-- The rest of a word, with a comment perhaps, does not go on with a blank and another word. -/
theorem someBlanks_word {v rest : List Char} (hv : ∀ d ∈ v, isWord d = true)
    (hr : IsRemark rest)
    : Scan.someBlanks (v ++ rest) = none
      ∨ ∃ cs, Scan.someBlanks (v ++ rest) = some ('/' :: cs) := by
  cases v with
  | nil =>
      rcases hr with rfl | ⟨cs, rfl⟩
      · exact .inl rfl
      · exact .inr ⟨cs, rfl⟩
  | cons d v =>
      have hd : isBlank d = false := isBlank_of_isWord (hv d List.mem_cons_self)
      left
      rw [List.cons_append, Scan.someBlanks, hd]
      rfl

/-- The line of a member opens no table. -/
theorem opensTable_member {name : String} {rest : List Char} (hr : IsRemark rest)
    : opensTable (indent.toList ++ ((writeName name).toList ++ rest)) = false := by
  have hblanks : Scan.blanks (indent.toList ++ ((writeName name).toList ++ rest))
      = (writeName name).toList ++ rest :=
    Scan.blanks_writeName name rest
  rw [opensTable, hblanks]
  rcases toList_writeName name with ⟨hw, he⟩ | he
  · rw [he]
    cases hk : Scan.keyword ['t', 'a', 'b', 'l', 'e'] (name.toList ++ rest) with
    | none => rfl
    | some cs =>
        obtain ⟨v, rfl, hv⟩ := keyword_word (by decide) (isWordText_iff.mp hw).2 hr hk
        rcases someBlanks_word hv hr with hs | ⟨cs, hs⟩
        · simp [hs]
        · have hname : Scan.dottedName ('/' :: cs) = none := rfl
          simp [hs, hname]
  · rw [he]
    rfl

/-- The line of a member declares no relationship. -/
theorem declaredKey?_member {name : String} {rest : List Char} (hr : IsRemark rest)
    : declaredKey? c (indent.toList ++ ((writeName name).toList ++ rest)) = none := by
  have hblanks : Scan.blanks (indent.toList ++ ((writeName name).toList ++ rest))
      = (writeName name).toList ++ rest :=
    Scan.blanks_writeName name rest
  rw [declaredKey?, hblanks]
  rcases toList_writeName name with ⟨hw, he⟩ | he
  · rw [he, scanRef]
    cases hk : Scan.keyword ['r', 'e', 'f'] (name.toList ++ rest) with
    | none => rfl
    | some cs =>
        obtain ⟨v, rfl, hv⟩ := keyword_word (by decide) (isWordText_iff.mp hw).2 hr hk
        have hlabel : scanLabel (v ++ rest) = none := by
          rw [scanLabel]
          rcases someBlanks_word hv hr with hs | ⟨cs, hs⟩
          · rw [hs]
            rfl
          · rw [hs]
            rfl
        have hcolon : Scan.char ':' (Scan.blanks (v ++ rest)) = none := by
          cases v with
          | nil =>
              rcases hr with rfl | ⟨cs, rfl⟩
              · rfl
              · rfl
          | cons d v =>
              have hd : isWord d = true := hv d List.mem_cons_self
              have hblank : Scan.blanks (d :: (v ++ rest)) = d :: (v ++ rest) :=
                Scan.blanks_eq_self fun e he => Option.some.inj he ▸ isBlank_of_isWord hd
              rw [List.cons_append, hblank]
              exact if_neg (ne_of_isWord hd (by decide))
        simp [hlabel, hcolon]
  · rw [he, List.cons_append, scanRef_eq_none (by decide)]
    rfl

end Markup

/-- A member is written as its name and perhaps a comment. -/
theorem Member.toList_toText (m : Member)
    : ∃ rest, m.toText.toList = (writeName m.table).toList ++ rest ∧ IsRemark rest := by
  obtain ⟨table, comment⟩ := m
  rw [toText]
  split
  · exact ⟨[], by simp, .inl rfl⟩
  · exact ⟨[], by simp, .inl rfl⟩
  · rename_i comment _ _
    exact ⟨" // ".toList ++ comment.toList, by simp, .inr ⟨'/' :: ' ' :: comment.toList, rfl⟩⟩

/-- The lines of a group are all left: they stand outside of tables and open none. -/
theorem TableGroup.leaves_lines {c : Conventions} {keys : List Relationship} (g : TableGroup)
    : Leaves c ⟨none, keys⟩ (g.lines.map String.toList) ⟨none, keys⟩
        (g.lines.map String.toList) := by
  -- Neither keyword begins with the first letter of a line, or another letter follows it.
  have other {line cs : List Char} {d : Char} (hb : Scan.blanks line = d :: cs)
      (hr : foldCase d ≠ 'r')
      (ht : Scan.keyword ['t', 'a', 'b', 'l', 'e'] (d :: cs) = none
        ∨ ∃ e es, Scan.keyword ['t', 'a', 'b', 'l', 'e'] (d :: cs) = some (e :: es)
          ∧ isBlank e = false)
      : declaredKey? c line = none ∧ opensTable line = false := by
    constructor
    · rw [declaredKey?, hb, scanRef_eq_none hr]
      rfl
    · rcases ht with ht | ⟨e, es, ht, he⟩
      · simp [opensTable, hb, ht]
      · simp [opensTable, hb, ht, Scan.someBlanks, he]
  apply leaves_outside
  intro l hl
  rw [lines, List.map_cons, List.map_append, List.map_append, List.map_map, List.map_map] at hl
  simp only [List.mem_cons, List.mem_append, List.mem_map] at hl
  rcases hl with rfl | (⟨m, hm, rfl⟩ | ⟨note, hn, rfl⟩) | ⟨b, hb, rfl⟩
  · rw [String.toList_append, toList_groupHeading]
    exact other rfl (by decide) (.inr ⟨'G', _, rfl, by decide⟩)
  · obtain ⟨rest, he, hr⟩ := m.toList_toText
    simp only [Function.comp_apply, String.toList_append, he]
    exact ⟨declaredKey?_member hr, opensTable_member hr⟩
  · simp only [Function.comp_apply, String.toList_append, toList_noteLine]
    exact other (d := 'N') rfl (by decide) (.inl rfl)
  · obtain rfl | hb := hb
    · exact other (show Scan.blanks "\x7d".toList = ['\x7d'] from rfl) (by decide) (.inl rfl)
    · cases hb

end SchemaMarkup
