import SchemaMarkup.Proofs.Markup.DroppedLines
import SchemaMarkup.Proofs.Markup.LineTokens
import SchemaMarkup.Proofs.Markup.Thinning

/-! Texts in which repeats can be found line by line. Repeats are looked for in lines that are each
judged by themselves, and this goes well as long as each line is read as what it is taken for: in
a table that is known to be open closing braces stand alone, opening braces end their lines, and
the lines that are taken for fields and references are such. The text without its repeats then
declares the same tables with the same names of fields.
-/

namespace SchemaMarkup

open Markup

namespace Markup

-----------------------------------------------------------------------------------------
-- What a line is read as
-----------------------------------------------------------------------------------------

/-- Whether tokens are a line of text that declares a reference. -/
def isReferenceLine : List Token → Bool
  | [.text s _ _] => (Ref.ofLine? s).isSome
  | _ => false

/-- Whether tokens are a line of text that declares a field of the given name. -/
def isFieldLine (name : String) : List Token → Bool
  | [.text s comment _] => (BlockLine.field? ⟨s, comment⟩).map Field.name = some name
  | _ => false

/-- Whether tokens are a table heading with an opening brace. -/
def isHeadingLine : List Token → Bool
  | [.text s _ _, .opening _] => (tableHeading? s).isSome
  | _ => false

/-- Whether tokens are an opening brace, alone or after a line of text. -/
def isOpeningLine : List Token → Bool
  | [.opening _] => true
  | [.text _ _ _, .opening _] => true
  | _ => false

/-- Whether tokens are a closing brace alone. -/
def isClosingLine : List Token → Bool
  | [.closing _] => true
  | _ => false

-----------------------------------------------------------------------------------------
-- What a line is taken for
-----------------------------------------------------------------------------------------

/-- Whether a line is taken for a reference. -/
def takenForRef (line : List Char) : Bool :=
  (scanRef (Scan.blanks line)).isSome

/-- The field that a line of a table is taken for, if it closes and opens no block: notes and
the lines of inner blocks are taken for none.
-/
def OpenTable.takenForField? (t : OpenTable) (line : List Char) : Option String :=
  if t.inner ≠ 0 then none
  else (declaredField? line).filter fun name => Text.lower name ≠ "note"

/-- Whether a line is read as what it is taken for, given the table block that is open and the
tokens after the line. Outside of tables only headings matter, and in tables the other lines
must keep their braces paired; no block may follow what is taken for a field or a reference.
-/
def readAsTaken (block : Option OpenTable) (line : List Char) (after : List Token) : Bool :=
  if takenForRef line then isReferenceLine (lineTokens line) && !startsBlock after
  else match block with
    | none => !opensTable line || isHeadingLine (lineTokens line)
    | some t =>
      if closesBlock line then isClosingLine (lineTokens line)
      else if endsWithOpening line then isOpeningLine (lineTokens line)
      else match t.takenForField? line with
        | some name => isFieldLine name (lineTokens line) && !startsBlock after
        | none => bracesPair 0 (lineTokens line)

/-- Whether lines end by themselves and are read as what they are taken for, one after the
other.
-/
def linesLaidOut (block : Option OpenTable) : List (List Char) → Bool
  | [] => true
  | line :: lines =>
    let next := if takenForRef line then block else (OpenTable.step? block line).getD block
    decide (IsClosed line) && readAsTaken block line (lines.flatMap lineTokens)
      && linesLaidOut next lines

/-- Whether the logical lines of a text are laid out so that repeats can be found line by line.
-/
def LaidOut (text : String) : Prop :=
  linesLaidOut none (logicalLines text.toList) = true

instance (text : String) : Decidable (LaidOut text) :=
  inferInstanceAs (Decidable (linesLaidOut none (logicalLines text.toList) = true))

-----------------------------------------------------------------------------------------
-- Repeats are left out of what is read
-----------------------------------------------------------------------------------------

variable {ts us : List Token}

/-- Outside of tables all tokens of a line may be left, by induction on them. -/
theorem Thinned.outside_append (h : Thinned none ts us) (tokens : List Token)
    : Thinned none (tokens ++ ts) (tokens ++ us) := by
  induction tokens with
  | nil => exact h
  | cons t tokens ih => exact .outside t ih

/-- In a table all tokens of a line may be left whose braces are paired, by induction on them.
-/
theorem Thinned.paired_append {declared : List String} {inner : Nat}
    (h : Thinned (some ⟨declared, inner⟩) ts us) {tokens : List Token} {depth : Nat}
    (paired : bracesPair depth tokens = true)
    : Thinned (some ⟨declared, inner + depth⟩) (tokens ++ ts) (tokens ++ us) := by
  fun_induction bracesPair depth tokens with
  | case1 depth =>
      obtain rfl : depth = 0 := of_decide_eq_true paired
      exact h
  | case2 depth n tokens ih => exact .opening n (ih paired)
  | case3 n tokens => cases paired
  | case4 n tokens depth ih => exact .closing n (ih paired)
  | case5 depth s comment n tokens ih => exact .line s comment n (ih paired)

section

variable {block : Option OpenTable} {declared : List String} {inner : Nat} {tokens : List Token}

/-- A line that is read as a reference may be left. -/
theorem Thinned.reference_line_left (h : Thinned block ts us)
    (read : isReferenceLine tokens = true)
    : Thinned block (tokens ++ ts) (tokens ++ us) := by
  match tokens, read with
  | [.text s comment n], _ =>
      cases block with
      | none => exact .outside _ h
      | some block => exact .line s comment n h

/-- A line that is read as a reference may be left out. -/
theorem Thinned.reference_line (h : Thinned block ts us) (read : isReferenceLine tokens = true)
    (single : startsBlock ts = false)
    : Thinned block (tokens ++ ts) us := by
  match tokens, read with
  | [.text s comment n], read => exact .reference s comment n read single h

theorem Thinned.heading_line (h : Thinned (some {}) ts us) (read : isHeadingLine tokens = true)
    : Thinned none (tokens ++ ts) (tokens ++ us) := by
  match tokens, read with
  | [.text s comment n, .opening m], read => exact .heading s comment n m read h

theorem Thinned.opening_line (h : Thinned (some ⟨declared, inner + 1⟩) ts us)
    (read : isOpeningLine tokens = true)
    : Thinned (some ⟨declared, inner⟩) (tokens ++ ts) (tokens ++ us) := by
  match tokens, read with
  | [.opening n], _ => exact .opening n h
  | [.text s comment n, .opening m], _ => exact .line s comment n (.opening m h)

/-- A closing brace ends the innermost block. -/
theorem Thinned.closing_line {block' : Option OpenTable} (h : Thinned block' ts us)
    (read : isClosingLine tokens = true)
    (closes : block' = none ∧ inner = 0 ∨ ∃ i, inner = i + 1 ∧ block' = some ⟨declared, i⟩)
    : Thinned (some ⟨declared, inner⟩) (tokens ++ ts) (tokens ++ us) := by
  match tokens, read with
  | [.closing n], _ =>
      rcases closes with ⟨rfl, rfl⟩ | ⟨i, rfl, rfl⟩
      · exact .closed n h
      · exact .closing n h

variable {name : String}

theorem Thinned.field_line (h : Thinned (some ⟨name :: declared, 0⟩) ts us)
    (read : isFieldLine name tokens = true) (single : startsBlock ts = false)
    : Thinned (some ⟨declared, 0⟩) (tokens ++ ts) (tokens ++ us) := by
  match tokens, read with
  | [.text s comment n], read =>
      have declares : BlockLine.Declares ⟨s, comment⟩ name :=
        Option.map_eq_some_iff.mp (of_decide_eq_true read)
      exact .field s comment n declares single h

/-- A line that is read as a field of a known name may be left out. -/
theorem Thinned.repeated_line (h : Thinned (some ⟨declared, 0⟩) ts us)
    (read : isFieldLine name tokens = true) (single : startsBlock ts = false)
    (known : name ∈ declared)
    : Thinned (some ⟨declared, 0⟩) (tokens ++ ts) us := by
  match tokens, read with
  | [.text s comment n], read =>
      have declares : BlockLine.Declares ⟨s, comment⟩ name :=
        Option.map_eq_some_iff.mp (of_decide_eq_true read)
      exact .repeated s comment n declares single known h

end

/-- A line of a table that neither closes nor opens a block changes the block only if it is
taken for a field, and is left out only if it repeats one.
-/
theorem OpenTable.step?_of_inside {t : OpenTable} {line : List Char}
    (closes : closesBlock line = false) (opens : endsWithOpening line = false)
    : OpenTable.step? (some t) line
      = match t.takenForField? line with
        | none => some (some t)
        | some name =>
          if name ∈ t.declared then none
          else some (some { t with declared := name :: t.declared }) := by
  simp only [step?, closes, opens, takenForField?, Bool.false_eq_true, if_false]
  by_cases hi : t.inner = 0
  · simp only [hi, ne_eq, not_true_eq_false, if_false]
    cases declaredField? line with
    | none => rfl
    | some name =>
        by_cases hn : Text.lower name = "note"
        · simp [Option.filter_some, hn]
        · simp [Option.filter_some, hn]
  · simp only [ne_eq, hi, not_false_eq_true, if_true]

theorem OpenTable.inner_of_takenForField? {t : OpenTable} {line : List Char} {name : String}
    (h : t.takenForField? line = some name)
    : t.inner = 0 := by
  by_contra hi
  rw [takenForField?, if_pos hi] at h
  cases h

/-- Whether reading a line may lead from one table block to another with the line left, or leave
the block with the line left out.
-/
def Thins (block : Option OpenTable) (tokens ts : List Token) : Option (Option OpenTable) → Prop
  | none => ∀ us, Thinned block ts us → Thinned block (tokens ++ ts) us
  | some next => ∀ us, Thinned next ts us → Thinned block (tokens ++ ts) (tokens ++ us)

/-- A line of a table that is taken for no reference and is read as what it is taken for. -/
theorem thins_inside {t : OpenTable} {line : List Char} (noRef : takenForRef line = false)
    (read : readAsTaken (some t) line ts = true)
    : Thins (some t) (lineTokens line) ts (OpenTable.step? (some t) line) := by
  obtain ⟨declared, inner⟩ := t
  simp only [readAsTaken, noRef, Bool.false_eq_true, if_false] at read
  -- The cases are those of the step, in its order, since each is judged by what the last ones left.
  by_cases hc : closesBlock line = true
  · rw [if_pos hc] at read
    simp only [OpenTable.step?, hc, if_true]
    cases inner with
    | zero => exact fun us h => h.closing_line read (.inl ⟨rfl, rfl⟩)
    | succ inner => exact fun us h => h.closing_line read (.inr ⟨inner, rfl, rfl⟩)
  rw [if_neg hc] at read
  by_cases ho : endsWithOpening line = true
  · rw [if_pos ho] at read
    simp only [OpenTable.step?, hc, ho, if_true]
    exact fun us h => h.opening_line read
  rw [if_neg ho] at read
  rw [OpenTable.step?_of_inside (Bool.not_eq_true _ ▸ hc) (Bool.not_eq_true _ ▸ ho)]
  cases hf : OpenTable.takenForField? ⟨declared, inner⟩ line with
  | none =>
      rw [hf] at read
      exact fun us h => h.paired_append read
  | some name =>
      obtain rfl : inner = 0 := OpenTable.inner_of_takenForField? hf
      rw [hf, Bool.and_eq_true, Bool.not_eq_true'] at read
      by_cases known : name ∈ declared
      · simp only [known, if_true]
        exact fun us h => h.repeated_line read.1 read.2 known
      · simp only [known, if_false]
        exact fun us h => h.field_line read.1 read.2

/-- A line that is taken for no reference and is read as what it is taken for. -/
theorem thins_line {block : Option OpenTable} {line : List Char}
    (noRef : takenForRef line = false) (read : readAsTaken block line ts = true)
    : Thins block (lineTokens line) ts (OpenTable.step? block line) := by
  cases block with
  | none =>
      simp only [readAsTaken, noRef, Bool.false_eq_true, if_false] at read
      by_cases ho : opensTable line = true
      · rw [ho, Bool.not_true, Bool.false_or] at read
        simp only [OpenTable.step?, ho, if_true]
        exact fun us h => h.heading_line read
      · simp only [OpenTable.step?, ho]
        exact fun us h => h.outside_append (lineTokens line)
  | some t => exact thins_inside noRef read

-----------------------------------------------------------------------------------------
-- Lines without repeats
-----------------------------------------------------------------------------------------

variable {c : Conventions}

theorem isSome_declaredKey? (line : List Char)
    : (declaredKey? c line).isSome = takenForRef line := by
  rw [declaredKey?, takenForRef]
  cases scanRef (Scan.blanks line) <;> rfl

/-- The lines of a layout end by themselves, by induction. -/
theorem isClosed_of_linesLaidOut {block : Option OpenTable} {lines : List (List Char)}
    (h : linesLaidOut block lines = true)
    : ∀ l ∈ lines, IsClosed l := by
  fun_induction linesLaidOut block lines with
  | case1 => exact fun l hl => nomatch hl
  | case2 block line lines next ih =>
      rw [Bool.and_eq_true, Bool.and_eq_true, decide_eq_true_eq] at h
      intro l hl
      rcases List.mem_cons.mp hl with rfl | hl
      · exact h.1.1
      · exact ih h.2 l hl

/-- Leaving out the repeats of lines that are laid out leaves out references and repeated fields
among their tokens, by induction on the lines.
-/
theorem thinned_linesWithoutRepeats {block : Option OpenTable} {lines : List (List Char)}
    (h : linesLaidOut block lines = true) (keys : List Relationship)
    : Thinned block (lines.flatMap lineTokens)
        ((linesWithoutRepeats c block keys lines).flatMap lineTokens) := by
  induction lines generalizing block keys with
  | nil => exact .nil
  | cons line lines ih =>
      rw [linesLaidOut, Bool.and_eq_true, Bool.and_eq_true] at h
      obtain ⟨⟨_, read⟩, rest⟩ := h
      have hkey := isSome_declaredKey? (c := c) line
      rw [linesWithoutRepeats, List.flatMap_cons]
      cases hk : declaredKey? c line with
      | some key =>
          rw [hk, Option.isSome_some] at hkey
          simp only [readAsTaken, ← hkey, if_true, Bool.and_eq_true, Bool.not_eq_true'] at read
          rw [← hkey, if_pos rfl] at rest
          by_cases hm : key ∈ keys
          · simp only [hm, if_true]
            exact (ih rest keys).reference_line read.1 read.2
          · simp only [hm, if_false]
            exact (ih rest (key :: keys)).reference_line_left read.1
      | none =>
          rw [hk, Option.isSome_none] at hkey
          have hline := thins_line hkey.symm read
          rw [← hkey, if_neg Bool.false_ne_true] at rest
          cases hs : OpenTable.step? block line with
          | none =>
              rw [hs] at hline rest
              exact hline _ (ih rest keys)
          | some next =>
              rw [hs] at hline rest
              exact hline _ (ih rest keys)

/-- The tokens of a laid out text without its repeats are those of the lines that are left. -/
theorem LaidOut.map_unplaced_scan {text : String} (h : LaidOut text)
    : (Token.scan (withoutRepeats c text)).map Token.unplaced
      = (linesWithoutRepeats c none [] (logicalLines text.toList)).flatMap lineTokens := by
  have closed := isClosed_of_linesLaidOut h
  rw [Markup.map_unplaced_scan, withoutRepeats, String.toList_ofList]
  refine scanned_intercalate fun l hl => closed l ?_
  exact (linesWithoutRepeats_sublist none [] _).subset hl

theorem tableNames_of_repeatsDropped {tables tables' : List Table}
    (h : List.Forall₂ Table.RepeatsDropped tables tables')
    : tables'.map Table.name = tables.map Table.name := by
  induction h with
  | nil => rfl
  | cons ht _ ih => rw [List.map_cons, List.map_cons, ht.name, ih]

/-- A text that is read and in which repeats can be found line by line is read without its
repeats, too, as the same tables in the same order with the same names of fields.
-/
theorem ofText_withoutRepeats_laidOut (c : Conventions) {text : String} {s : Schema}
    (read : Schema.ofText text = .ok s) (h : LaidOut text)
    : ∃ s', Schema.ofText (withoutRepeats c text) = .ok s'
        ∧ s'.tableNames = s.tableNames
        ∧ List.Forall₂ Table.RepeatsDropped s.tables s'.tables := by
  obtain ⟨⟨heading, paired⟩, rfl⟩ :=
    (ofText_eq_ok_iff (map_unplaced_scan_lines (isClosed_of_linesLaidOut h))).mp read
  have thinned := thinned_linesWithoutRepeats (c := c) h []
  have tables := thinned.tablesOf_ofTokens
  refine ⟨_, (ofText_eq_ok_iff h.map_unplaced_scan).mpr ⟨⟨?_, ?_⟩, rfl⟩, ?_, tables⟩
  · exact thinned.any_isTableHeading heading
  · exact (thinned.bracesPair_eq 0).trans paired
  · exact tableNames_of_repeatsDropped tables

/-- A text that repeats a field after a comment and an inner block. -/
def shopText : String :=
  "Table items \x7b
  shop text // name
  indexes \x7b
    (shop)
  \x7d
  shop shops
\x7d
Table shops \x7b
  id int
\x7d
"

/-- What such a text declares. -/
def shop : Schema where
  tables := [
    { name := "items"
      fields := [{ name := "shop", type := "text" }, { name := "shop", type := "shops" }] },
    { name := "shops", fields := [{ name := "id", type := "int" }] }]

/-- What such a text declares without its repeats. -/
theorem ofText_withoutRepeats_laidOut_shop
    : Schema.ofText shopText = .ok shop ∧ LaidOut shopText
      ∧ ∃ s', Schema.ofText (withoutRepeats .standard shopText) = .ok s'
          ∧ s'.tableNames = shop.tableNames
          ∧ List.Forall₂ Table.RepeatsDropped shop.tables s'.tables := by
  have read : Schema.ofText shopText = .ok shop := by decide +kernel
  have laid : LaidOut shopText := by decide +kernel
  exact ⟨read, laid, ofText_withoutRepeats_laidOut .standard read laid⟩

/-- A text in which comments stand beside the braces of tables. -/
def commentedText : String :=
  "Table users \x7b
  id int
\x7d // users
Table posts \x7b // posts
  id int
\x7d
"

/-- Where a comment stands beside a closing brace, the table is not seen to end, and the next
one loses the fields that have names of its own.
-/
theorem withoutRepeats_loses_field
    : let declared (text : String) := (Schema.ofText text).toOption.map fun s =>
        s.tables.map fun t => (t.name, t.fieldNames)
      declared commentedText = some [("users", ["id"]), ("posts", ["id"])]
        ∧ declared (withoutRepeats .standard commentedText)
          = some [("users", ["id"]), ("posts", [])] := by
  decide +kernel

end Markup
end SchemaMarkup
