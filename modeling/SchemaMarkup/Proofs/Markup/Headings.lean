import SchemaMarkup.Markup.Heading
import SchemaMarkup.Markup.Printer
import SchemaMarkup.Markup.RefLine
import SchemaMarkup.Proofs.Markup.Scan

/-! Lines outside of blocks. A written reference, table heading or group heading is read back,
and none of the three is mistaken for another.
-/

namespace SchemaMarkup

open Text Markup

/-- Whether a reference is read back as it is written. -/
structure Ref.Plain (r : Ref) : Prop where
  sourceTable : PlainName r.sourceTable
  sourceField : PlainName r.sourceField
  targetTable : PlainName r.targetTable
  targetField : PlainName r.targetField

instance (r : Ref) : Decidable r.Plain :=
  decidable_of_iff (PlainName r.sourceTable ∧ PlainName r.sourceField
      ∧ PlainName r.targetTable ∧ PlainName r.targetField)
    ⟨fun h => ⟨h.1, h.2.1, h.2.2.1, h.2.2.2⟩,
      fun h => ⟨h.sourceTable, h.sourceField, h.targetTable, h.targetField⟩⟩

/-- Whether the names in a reference can be put between double quotes. -/
structure Ref.Named (r : Ref) : Prop where
  sourceTable : IsName r.sourceTable
  sourceField : IsName r.sourceField
  targetTable : IsName r.targetTable
  targetField : IsName r.targetField

theorem Ref.Plain.named {r : Ref} (h : r.Plain)
    : r.Named :=
  ⟨h.sourceTable.isName, h.sourceField.isName, h.targetTable.isName, h.targetField.isName⟩

/-- The characters of a reference line. -/
theorem Ref.toList_toText (r : Ref)
    : r.toText.toList
      = ['R', 'e', 'f', ':', ' '] ++ ((writeName r.sourceTable).toList
        ++ '.' :: ((writeName r.sourceField).toList
          ++ ' ' :: r.cardinality.symbol :: ' ' :: ((writeName r.targetTable).toList
            ++ '.' :: (writeName r.targetField).toList))) := by
  -- Rewriting with the equation would compare strings byte by byte.
  unfold Ref.toText
  simp

/-- A reference line is not empty. -/
theorem Ref.toText_ne_empty (r : Ref)
    : r.toText ≠ "" := by
  intro he
  have hl := r.toList_toText
  rw [he] at hl
  cases hl

/-- A written reference is scanned as a whole before anything but a word character. -/
theorem Markup.scanRef_toText {r : Ref} (h : r.Named) {rest : List Char}
    (hr : ∀ c ∈ rest.head?, isWord c = false)
    : scanRef (r.toText.toList ++ rest) = some (r, rest) := by
  have htext : r.toText.toList ++ rest
      = 'R' :: 'e' :: 'f' :: ':' :: ' ' :: ((writeName r.sourceTable).toList
        ++ '.' :: ((writeName r.sourceField).toList
          ++ ' ' :: r.cardinality.symbol :: ' ' :: ((writeName r.targetTable).toList
            ++ '.' :: ((writeName r.targetField).toList ++ rest)))) := by
    simp [r.toList_toText]
  have hspace (cs : List Char) : ∀ c ∈ (' ' :: cs).head?, isWord c = false := by
    intro c hc
    obtain rfl := Option.some.inj hc
    decide
  have hsymbol (cs : List Char)
      : Scan.blanks (' ' :: r.cardinality.symbol :: cs) = r.cardinality.symbol :: cs := by
    rw [Scan.blanks_space]
    cases r.cardinality <;> rfl
  have hkey (cs : List Char)
      : Scan.keyword ['r', 'e', 'f'] ('R' :: 'e' :: 'f' :: cs) = some cs := rfl
  have hlabel (cs : List Char) : (scanLabel (':' :: cs)).getD (':' :: cs) = ':' :: cs := rfl
  have hcolon (cs : List Char) : Scan.char ':' (Scan.blanks (':' :: cs)) = some cs := rfl
  rw [htext]
  simp only [scanRef, hkey, hlabel, hcolon, Option.bind_eq_bind, Option.bind_some,
    Scan.blanks_space, Scan.blanks_writeName,
    Scan.fieldPath_writeName h.sourceTable h.sourceField (hspace _), hsymbol,
    Cardinality.ofSymbol?_symbol, Scan.fieldPath_writeName h.targetTable h.targetField hr,
    String.ofList_toList, readName_writeName]
  rfl

/-- A written reference is read back. -/
theorem Ref.ofLine?_toText {r : Ref} (h : r.Named)
    : Ref.ofLine? r.toText = some r := by
  have hend : ∀ c ∈ ([] : List Char).head?, isWord c = false := fun c hc => nomatch hc
  have hs := scanRef_toText h hend
  rw [List.append_nil] at hs
  rw [Ref.ofLine?, hs]
  rfl

/-- A text starts with a reference only if it begins with the letters of the keyword. -/
theorem Markup.scanRef_eq_none {c : Char} (hc : foldCase c ≠ 'r') (cs : List Char)
    : scanRef (c :: cs) = none := by
  have hk : Scan.keyword ['r', 'e', 'f'] (c :: cs) = none := if_neg hc
  rw [scanRef, hk]
  rfl

theorem Ref.ofLine?_eq_none {line : String} {c : Char} {cs : List Char}
    (hl : line.toList = c :: cs) (hc : foldCase c ≠ 'r')
    : Ref.ofLine? line = none := by
  rw [Ref.ofLine?, hl, scanRef_eq_none hc]
  rfl

namespace Markup

/-- The heading of a table, without its brace. -/
def tableHeading (name : String) : String :=
  "Table " ++ writeName name

theorem toList_tableHeading (name : String)
    : (tableHeading name).toList = ['T', 'a', 'b', 'l', 'e', ' '] ++ (writeName name).toList := by
  unfold tableHeading
  simp

/-- Nothing is passed over before a table heading. -/
theorem blanks_tableHeading (name rest : String)
    : Scan.blanks (tableHeading name ++ rest).toList
      = (tableHeading name).toList ++ rest.toList := by
  rw [String.toList_append, toList_tableHeading]
  rfl

/-- The keyword of a table heading is passed over up to the space before the name. -/
theorem keyword_tableHeading (name : String) (rest : List Char)
    : Scan.keyword ['t', 'a', 'b', 'l', 'e'] ((tableHeading name).toList ++ rest)
      = some (' ' :: ((writeName name).toList ++ rest)) := by
  rw [toList_tableHeading]
  rfl

/-- The name in a table heading is scanned up to the space before the brace. -/
theorem dottedName_tableHeading {name : String} (h : IsName name)
    : Scan.dottedName ((writeName name).toList ++ " \x7b".toList)
      = some ((writeName name).toList, " \x7b".toList) := by
  refine Scan.dottedName_writeName h _ fun c hc => ?_
  obtain rfl := Option.some.inj hc
  decide

/-- A written table heading is read back. -/
theorem tableHeading?_tableHeading {name : String} (h : IsName name)
    : tableHeading? (tableHeading name) = some name := by
  have hkey := keyword_tableHeading name []
  have hgap := Scan.someBlanks_writeName name []
  have hname := Scan.dottedName_writeName h [] fun c hc => nomatch hc
  simp only [List.append_nil] at hkey hgap hname
  simp only [tableHeading?, hkey, hgap, hname, Option.bind_eq_bind, Option.bind_some,
    String.ofList_toList, readName_writeName]
  rfl

theorem ofLine?_tableHeading (name : String)
    : Ref.ofLine? (tableHeading name) = none :=
  Ref.ofLine?_eq_none (toList_tableHeading name) (by decide)

/-- The color setting of a group, if it has a color. -/
def colorSetting : Option String → String
  | none | some "" => ""
  | some color => " [color: " ++ color ++ "]"

/-- The heading of a group, without its brace. -/
def groupHeading (name : String) (color : Option String) : String :=
  "TableGroup \"" ++ name ++ "\"" ++ colorSetting color

/-- The characters of a group heading. -/
theorem toList_groupHeading (name : String) (color : Option String)
    : (groupHeading name color).toList
      = ['T', 'a', 'b', 'l', 'e', 'G', 'r', 'o', 'u', 'p', ' ']
        ++ '"' :: (name.toList ++ '"' :: (colorSetting color).toList) := by
  unfold groupHeading
  simp

/-- Whether a color is a word, perhaps after a number sign. -/
def IsColor (color : String) : Prop :=
  isWordText color = true
    ∨ color.toList.head? = some '#' ∧ isWordText (String.ofList color.toList.tail) = true

instance (color : String) : Decidable (IsColor color) :=
  inferInstanceAs (Decidable (_ ∨ _))

/-- A color is a sign, which may be missing, and a word. -/
theorem IsColor.split {color : String} (h : IsColor color)
    : ∃ sign word, color.toList = sign ++ word ∧ (sign = [] ∨ sign = ['#'])
        ∧ word ≠ [] ∧ ∀ c ∈ word, isWord c = true := by
  rcases h with h | ⟨hs, hw⟩
  · exact ⟨[], color.toList, rfl, .inl rfl, isWordText_iff.mp h⟩
  · refine ⟨['#'], color.toList.tail, ?_, .inr rfl, ?_⟩
    · cases hc : color.toList with
      | nil => simp [hc] at hs
      | cons c cs =>
          rw [hc] at hs
          rw [Option.some.inj hs]
          rfl
    · simpa using isWordText_iff.mp hw

/-- A color is not empty, so that its setting is written. -/
theorem colorSetting_some {color : String} (h : IsColor color)
    : colorSetting (some color) = " [color: " ++ color ++ "]" := by
  obtain ⟨sign, word, hcolor, _, hne, _⟩ := h.split
  rw [colorSetting]
  intro he
  have hnil := congrArg String.toList he
  rw [hcolor] at hnil
  exact hne (List.append_eq_nil_iff.mp hnil).2

/-- A written color setting is scanned as a whole. -/
theorem scanColor_colorSetting {color : String} (h : IsColor color)
    : scanColor (colorSetting (some color)).toList = some (color, []) := by
  obtain ⟨sign, word, hcolor, hsign, hne, hword⟩ := h.split
  have htext : (colorSetting (some color)).toList
      = ' ' :: '[' :: 'c' :: 'o' :: 'l' :: 'o' :: 'r' :: ':' :: ' '
        :: (sign ++ (word ++ [']'])) := by
    rw [colorSetting_some h]
    simp [hcolor]
  have hopen (cs : List Char) : Scan.char '[' (Scan.blanks ('[' :: cs)) = some cs := rfl
  have hkey (cs : List Char)
      : Scan.keyword ['c', 'o', 'l', 'o', 'r'] (Scan.blanks ('c' :: 'o' :: 'l' :: 'o' :: 'r' :: cs))
        = some cs := rfl
  have hcolon (cs : List Char) : Scan.char ':' (Scan.blanks (':' :: cs)) = some cs := rfl
  -- The sign ends before the word, and the word before the bracket.
  obtain ⟨c, w, rfl⟩ := List.exists_cons_of_ne_nil hne
  have hfirst : isWord c = true := hword c List.mem_cons_self
  have hsharp : c ≠ '#' := ne_of_isWord hfirst (by decide)
  have htake : ((sign ++ (c :: w ++ [']'])).takeWhile (· = '#')).take 1 = sign := by
    rcases hsign with rfl | rfl
    · simp [hsharp]
    · simp [hsharp]
  have hblank : Scan.blanks (sign ++ (c :: w ++ [']'])) = sign ++ (c :: w ++ [']']) := by
    apply Scan.blanks_eq_self
    intro d hd
    rcases hsign with rfl | rfl
    · obtain rfl := Option.some.inj hd
      exact isBlank_of_isWord hfirst
    · obtain rfl := Option.some.inj hd
      decide
  have hend : ∀ d ∈ [']'].head?, isWord d = false := by
    intro d hd
    obtain rfl := Option.some.inj hd
    decide
  have hclose : Scan.char ']' (Scan.blanks [']']) = some [] := rfl
  rw [htext]
  simp only [scanColor, hopen, hkey, hcolon, Option.bind_eq_bind, Option.bind_some,
    Scan.blanks_space, hblank, htake, List.drop_left, Scan.run_append hne hword hend, hclose]
  rw [← hcolor, String.ofList_toList]
  rfl

/-- A written group heading is read back. -/
theorem groupHeading?_groupHeading {name : String} {color : Option String}
    (hn : IsName name) (hc : ∀ c ∈ color, IsColor c)
    : groupHeading? (groupHeading name color) = some ⟨name, color⟩ := by
  have hkey (cs : List Char)
      : Scan.keyword ['t', 'a', 'b', 'l', 'e', 'g', 'r', 'o', 'u', 'p']
          ('T' :: 'a' :: 'b' :: 'l' :: 'e' :: 'G' :: 'r' :: 'o' :: 'u' :: 'p' :: cs)
        = some cs := rfl
  have hgap (cs : List Char) : Scan.someBlanks (' ' :: '"' :: cs) = some ('"' :: cs) := rfl
  have hname := Scan.nameOf_quoted isWord hn.toList_ne_nil hn.unquoted (colorSetting color).toList
  have hread : readName (String.ofList ('"' :: (name.toList ++ ['"']))) = name := by
    rw [readName, String.toList_ofList, ← List.cons_append, readNameChars_quoted,
      String.ofList_toList]
  simp only [groupHeading?, toList_groupHeading, List.cons_append, List.nil_append, hkey, hgap,
    Option.bind_eq_bind, Option.bind_some, Scan.name, hname, hread]
  cases color with
  | none => rfl
  | some color =>
      rw [scanColor_colorSetting (hc color rfl)]
      rfl

theorem ofLine?_groupHeading (name : String) (color : Option String)
    : Ref.ofLine? (groupHeading name color) = none :=
  Ref.ofLine?_eq_none (toList_groupHeading name color) (by decide)

/-- A group heading is no table heading, for want of a blank after the first keyword. -/
theorem tableHeading?_groupHeading (name : String) (color : Option String)
    : tableHeading? (groupHeading name color) = none := by
  have hkey (cs : List Char)
      : Scan.keyword ['t', 'a', 'b', 'l', 'e'] ('T' :: 'a' :: 'b' :: 'l' :: 'e' :: cs)
        = some cs := rfl
  have hgap (cs : List Char) : Scan.someBlanks ('G' :: cs) = none := rfl
  simp only [tableHeading?, toList_groupHeading, List.cons_append, List.nil_append, hkey, hgap,
    Option.bind_eq_bind, Option.bind_some, Option.bind_none]

end Markup
end SchemaMarkup
