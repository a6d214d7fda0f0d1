import Mathlib.Data.List.TakeWhile
import SchemaMarkup.Markup.Constraint
import SchemaMarkup.Markup.Printer
import SchemaMarkup.Markup.RefLine
import SchemaMarkup.Proofs.Markup.Scan

/-! Notes. A note is read back from its literal, whatever it says, and a line whose first colon
comes after a bracket is neither a note nor a reference.
-/

namespace SchemaMarkup.Markup

open Text

namespace Literal

/-- The characters of a literal between triple quotes. -/
def block (cs : List Char) : List Char :=
  tripleQuote ++ cs ++ tripleQuote

/-- The characters of a literal between double quotes. -/
def line (cs : List Char) : List Char :=
  '"' :: (escape cs ++ ['"'])

/-- A text of several lines is written as a block, any other as a line. -/
theorem toList_encode (value : String)
    : (encode value).toList
      = if '\n' ∈ value.toList then block value.toList else line value.toList := by
  rw [encode]
  by_cases h : '\n' ∈ value.toList
  · simp [h, block]
  · simp [h, line]

/-- A block stands for what is between its quotes. -/
theorem decodeTrimmed_block (cs : List Char)
    : decodeTrimmed (block cs) = cs := by
  have hprefix : tripleQuote.isPrefixOf (block cs) = true := by
    rw [List.isPrefixOf_iff_prefix, block, List.append_assoc]
    exact List.prefix_append _ _
  have hsuffix : tripleQuote.isSuffixOf (block cs) = true := by
    rw [List.isSuffixOf_iff_suffix]
    exact List.suffix_append _ _
  have hlength : (block cs).length = cs.length + 6 := by
    simp [block, tripleQuote]
  rw [decodeTrimmed.eq_def, if_pos ⟨by omega, hprefix, hsuffix⟩, hlength, Nat.add_sub_cancel]
  simp [block, tripleQuote]

/-- A line stands for what is between its quotes, without the escapes. -/
theorem decodeTrimmed_line (cs : List Char)
    : decodeTrimmed (line cs) = cs := by
  have hprefix : ¬ tripleQuote.isPrefixOf (line cs) = true := by
    simp [line, tripleQuote]
  rw [decodeTrimmed.eq_def, if_neg fun h => hprefix h.2.1, line]
  cases he : escape cs ++ ['"'] with
  | nil => simp at he
  | cons d ds =>
      have hlast : (d :: ds).getLast? = some '"' := by
        rw [← he]
        simp
      have hinit : (d :: ds).dropLast = escape cs := by
        rw [← he]
        simp
      simp [hlast, hinit, isQuote]

theorem isTrimmed_between {q : Char} (hq : isBlank q = false) (cs : List Char)
    : IsTrimmed (q :: (cs ++ [q])) :=
  isTrimmed_cons_append hq (getLast_concat hq []) (List.cons_ne_nil q [])

/-- A block is trimmed. -/
theorem isTrimmed_block (cs : List Char)
    : IsTrimmed (block cs) := by
  have he : block cs = '\'' :: (('\'' :: '\'' :: (cs ++ ['\'', '\''])) ++ ['\'']) := by
    simp [block, tripleQuote]
  rw [he]
  exact isTrimmed_between (by decide) _

/-- A literal is trimmed. -/
theorem isTrimmed_encode (value : String)
    : IsTrimmed (encode value).toList := by
  rw [toList_encode]
  split
  · exact isTrimmed_block value.toList
  · exact isTrimmed_between (by decide) _

/-- A literal stands for the text it was made from. -/
theorem decode_encode (value : String)
    : decode (encode value) = value := by
  rw [decode, (isTrimmed_encode value).trim_eq, toList_encode]
  split
  · rw [decodeTrimmed_block, String.ofList_toList]
  · rw [decodeTrimmed_line, String.ofList_toList]

/-- A literal stands for the text it was made from, whatever that holds, and also with white space
around the literal.
-/
theorem encode_stands_for_text (value : String)
    : decode (encode value) = value
      ∧ ∀ before after : String, isBlankText before = true → isBlankText after = true →
          decode (before ++ encode value ++ after) = value := by
  refine ⟨decode_encode value, fun before after hb ha => ?_⟩
  have trims : trim (before ++ encode value ++ after).toList = trim (encode value).toList := by
    rw [String.toList_append, String.toList_append, (isTrimmed_encode value).trim_eq]
    exact (isTrimmed_encode value).trim_padded (List.all_eq_true.mp hb) (List.all_eq_true.mp ha)
  rw [decode, trims, ← decode, decode_encode]

/-- A text of several lines that begins with triple quotes and ends with a quote. -/
theorem encode_stands_for_text_quoted
    : encode "'''\\ \"\n'" = "''''''\\ \"\n''''"
      ∧ isBlankText "\t" = true ∧ isBlankText " \n" = true
      ∧ decode ("\t" ++ encode "'''\\ \"\n'" ++ " \n") = "'''\\ \"\n'" :=
  have tab : isBlankText "\t" = true := by decide +kernel
  have feed : isBlankText " \n" = true := by decide +kernel
  ⟨by decide +kernel, tab, feed, (encode_stands_for_text "'''\\ \"\n'").2 "\t" " \n" tab feed⟩

end Literal

/-- What follows the keyword of a note and its colon, if there is anything, is the literal. -/
theorem noteValue?_keyword (literal : String)
    : noteValue? ("Note: " ++ literal) = some (Literal.decode (" " ++ literal)) := by
  have htext : ("Note: " ++ literal).toList
      = 'N' :: 'o' :: 't' :: 'e' :: ':' :: ' ' :: literal.toList := by
    simp
  have hkey (cs : List Char)
      : Scan.keyword ['n', 'o', 't', 'e'] ('N' :: 'o' :: 't' :: 'e' :: cs) = some cs := rfl
  have hcolon (cs : List Char) : Scan.char ':' (Scan.blanks (':' :: cs)) = some cs := rfl
  have hspace : String.ofList (' ' :: literal.toList) = " " ++ literal := by
    apply String.toList_inj.mp
    simp
  simp only [noteValue?, htext, hkey, hcolon, Option.bind_eq_bind, Option.bind_some, hspace]
  rfl

/-- A blank before a literal does not count. -/
theorem decode_space (literal : String)
    : Literal.decode (" " ++ literal) = Literal.decode literal := by
  have ht : trim (" " ++ literal).toList = trim literal.toList := by
    rw [String.toList_append]
    rfl
  rw [Literal.decode, Literal.decode, ht]

theorem noteValue?_noteText (note : String)
    : noteValue? (noteText note) = some note := by
  rw [noteText, noteValue?_keyword, decode_space, Literal.decode_encode]

theorem toList_noteText (note : String)
    : (noteText note).toList
      = ['N', 'o', 't', 'e', ':', ' '] ++ (Literal.encode note).toList := by
  simp [noteText]

/-- A written note is not empty. -/
theorem noteText_ne_empty (note : String)
    : noteText note ≠ "" := by
  intro he
  have hn := congrArg String.toList he
  rw [toList_noteText] at hn
  exact List.cons_ne_nil _ _ hn

/-- A written note ends with a quote. -/
theorem isQuote_getLast_noteText {note : String} {d : Char}
    (hd : d ∈ (noteText note).toList.getLast?)
    : Literal.isQuote d = true := by
  have hlast : ∃ cs q, (Literal.encode note).toList = cs ++ [q] ∧ Literal.isQuote q = true := by
    rw [Literal.toList_encode]
    split
    · refine ⟨tripleQuote ++ note.toList ++ ['\'', '\''], '\'', ?_, rfl⟩
      simp [Literal.block, tripleQuote]
    · exact ⟨'"' :: Literal.escape note.toList, '"', rfl, rfl⟩
  obtain ⟨cs, q, he, hq⟩ := hlast
  rw [toList_noteText, he, ← List.append_assoc, List.getLast?_concat] at hd
  exact Option.some.inj hd ▸ hq

/-- A written note begins with its keyword and ends with a quote. -/
theorem isTrimmed_noteText (note : String)
    : IsTrimmed (noteText note).toList := by
  have hne : (Literal.encode note).toList ≠ [] := by
    rw [Literal.toList_encode]
    split <;> simp [Literal.block, Literal.line, tripleQuote]
  rw [toList_noteText]
  exact isTrimmed_cons_append rfl (Literal.isTrimmed_encode note).2 hne

/-- A note between triple quotes is read back, also if it has only one line. -/
theorem noteValue?_block (note : String)
    : noteValue? ("Note: '''" ++ note ++ "'''") = some note := by
  have hsplit : "Note: '''" ++ note ++ "'''" = "Note: " ++ ("'''" ++ note ++ "'''") := by
    apply String.toList_inj.mp
    simp
  have htext : ("'''" ++ note ++ "'''").toList = Literal.block note.toList := by
    simp [Literal.block, tripleQuote]
  rw [hsplit, noteValue?_keyword, decode_space, Literal.decode, htext,
    (Literal.isTrimmed_block _).trim_eq, Literal.decodeTrimmed_block, String.ofList_toList]

/-- Whether no colon comes before the first opening bracket. -/
def ColonFree (cs : List Char) : Prop :=
  ':' ∉ cs.takeWhile (· ≠ '[')

/-- What follows a piece without brackets is free of colons if the whole is. -/
theorem ColonFree.of_append {p rest : List Char} (hp : '[' ∉ p) (h : ColonFree (p ++ rest))
    : ColonFree rest := by
  have ht : ∀ c ∈ p, decide (c ≠ '[') = true := by
    intro c hc
    simp only [decide_eq_true_eq]
    intro he
    subst he
    exact hp hc
  rw [ColonFree, List.takeWhile_append_of_pos ht] at h
  exact fun hm => h (List.mem_append_right p hm)

/-- A piece without colons and brackets may be put before a text that is free of colons. -/
theorem ColonFree.append {p rest : List Char} (hc : ':' ∉ p) (hp : '[' ∉ p)
    (h : ColonFree rest)
    : ColonFree (p ++ rest) := by
  have ht : ∀ c ∈ p, decide (c ≠ '[') = true := by
    intro c hc
    simp only [decide_eq_true_eq]
    intro he
    subst he
    exact hp hc
  rw [ColonFree, List.takeWhile_append_of_pos ht]
  intro hm
  rcases List.mem_append.mp hm with hm | hm
  · exact hc hm
  · exact h hm

/-- What follows a keyword is free of colons if the whole is. -/
theorem ColonFree.keyword {ks : List Char} (hk : '[' ∉ ks.map foldCase)
    {cs rest : List Char} (h : ColonFree cs) (hs : Scan.keyword ks cs = some rest)
    : ColonFree rest := by
  obtain ⟨w, rfl, spelled⟩ := Scan.keyword_eq_some_iff.mp hs
  have unbracketed : '[' ∉ w := by
    intro hm
    have hf : foldCase '[' ∈ w.map foldCase := List.mem_map_of_mem hm
    exact hk (spelled ▸ hf)
  exact ColonFree.of_append unbracketed h

/-- What follows white space is free of colons if the whole is. -/
theorem ColonFree.blanks {cs : List Char} (h : ColonFree cs)
    : ColonFree (Scan.blanks cs) := by
  have hb : '[' ∉ cs.takeWhile isBlank := by
    intro hm
    exact absurd (List.mem_takeWhile_imp hm) (by decide)
  apply ColonFree.of_append hb
  rwa [Scan.blanks, trimLeft, List.takeWhile_append_dropWhile]

/-- What follows the label of a reference is free of colons if the whole is. -/
theorem ColonFree.label {cs : List Char} (h : ColonFree cs)
    : ColonFree ((scanLabel cs).getD cs) := by
  cases cs with
  | nil => exact h
  | cons c cs =>
      cases hb : isBlank c with
      | false =>
          have hl : scanLabel (c :: cs) = none := by
            simp [scanLabel, Scan.someBlanks, hb]
          rw [hl]
          exact h
      | true =>
          have hs : ColonFree (trimLeft cs) := by
            have hbs := h.blanks
            rwa [Scan.blanks, trimLeft, List.dropWhile_cons_of_pos hb] at hbs
          have hw : '[' ∉ (trimLeft cs).takeWhile isWord := by
            intro hm
            exact absurd (List.mem_takeWhile_imp hm) (by decide)
          have hd : ColonFree ((trimLeft cs).dropWhile isWord) := by
            apply ColonFree.of_append hw
            rwa [List.takeWhile_append_dropWhile]
          have hl : scanLabel (c :: cs) = (Scan.run isWord (trimLeft cs)).map Prod.snd := by
            simp only [scanLabel, Scan.someBlanks, hb, if_true, Option.bind_eq_bind,
              Option.bind_some]
            cases Scan.run isWord (trimLeft cs) <;> rfl
          rw [hl, Scan.run]
          split
          · exact h
          · exact hd

/-- A text that is free of colons does not begin with one. -/
theorem ColonFree.char {cs : List Char} (h : ColonFree cs)
    : Scan.char ':' cs = none := by
  cases cs with
  | nil => rfl
  | cons c cs =>
      have hc : c ≠ ':' := by
        intro he
        subst he
        exact h (by simp)
      exact if_neg hc

/-- A line without a colon before its first bracket is no note. -/
theorem noteValue?_of_colonFree {line : String} (h : ColonFree line.toList)
    : noteValue? line = none := by
  rw [noteValue?]
  cases hk : Scan.keyword ['n', 'o', 't', 'e'] line.toList with
  | none => rfl
  | some cs =>
      have hc := (h.keyword (by decide) hk).blanks.char
      simp [hc]

/-- A text without a colon before its first bracket does not start with a reference. -/
theorem scanRef_of_colonFree {cs : List Char} (h : ColonFree cs)
    : scanRef cs = none := by
  rw [scanRef]
  cases hk : Scan.keyword ['r', 'e', 'f'] cs with
  | none => rfl
  | some cs =>
      have hc := (h.keyword (by decide) hk).label.blanks.char
      simp [hc]

end SchemaMarkup.Markup
