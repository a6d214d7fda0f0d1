import SchemaMarkup.Markup.Fragment
import SchemaMarkup.Proofs.Text.Blank

/-! Code fences. White space between a fence and the text may go with the fence, and a fence that
the text holds itself is not taken for the one around it, so that a fenced text is read as what
stands between the fences.
-/

namespace SchemaMarkup.Markup

open Text

/-- A text between fences with a language tag, each fence on a line of its own. -/
def fenced (tag text : String) : String :=
  "```" ++ tag ++ "\n" ++ text ++ "\n```"

theorem toList_fenced (tag text : String)
    : (fenced tag text).toList
      = codeFence ++ (tag.toList ++ '\n' :: (text.toList ++ '\n' :: codeFence)) := by
  have opening : "```".toList = codeFence := rfl
  have closing : "\n```".toList = '\n' :: codeFence := rfl
  have newline : "\n".toList = ['\n'] := rfl
  simp [fenced, String.toList_append, opening, closing, newline]

-----------------------------------------------------------------------------------------
-- White space at the ends makes no difference once percent signs are gone
-----------------------------------------------------------------------------------------

/-- White space around a text is trimmed off with that of the text itself. -/
theorem trim_padding {before after : List Char} (hb : ∀ c ∈ before, isBlank c = true)
    (ha : ∀ c ∈ after, isBlank c = true) (cs : List Char)
    : trim (before ++ cs ++ after) = trim cs := by
  obtain ⟨before', after', hb', ha', split⟩ := exists_padding cs
  have trimmed := isTrimmed_trim cs
  generalize trim cs = core at split trimmed ⊢
  subst split
  have regroup : before ++ (before' ++ core ++ after') ++ after
      = (before ++ before') ++ core ++ (after' ++ after) := by
    simp only [List.append_assoc]
  rw [regroup]
  exact trimmed.trim_padded (List.forall_mem_append.mpr ⟨hb, hb'⟩)
    (List.forall_mem_append.mpr ⟨ha', ha⟩)

/-- What is kept of a text without the white space around it is trimmed to what is kept of all of
it.
-/
theorem trim_filter_of_padding {before after : List Char} (hb : ∀ c ∈ before, isBlank c = true)
    (ha : ∀ c ∈ after, isBlank c = true) (p : Char → Bool) (cs : List Char)
    : trim ((before ++ cs ++ after).filter p) = trim (cs.filter p) := by
  rw [List.filter_append, List.filter_append]
  exact trim_padding (fun c hc => hb c (List.mem_filter.mp hc).1)
    (fun c hc => ha c (List.mem_filter.mp hc).1) (cs.filter p)

theorem trim_filter_trim (p : Char → Bool) (cs : List Char)
    : trim ((trim cs).filter p) = trim (cs.filter p) := by
  obtain ⟨before, after, hb, ha, split⟩ := exists_padding cs
  conv_rhs => rw [split]
  exact (trim_filter_of_padding hb ha p (trim cs)).symm

theorem trim_filter_trimLeft (p : Char → Bool) (cs : List Char)
    : trim ((trimLeft cs).filter p) = trim (cs.filter p) := by
  have split : cs = cs.takeWhile isBlank ++ trimLeft cs ++ [] := by
    rw [List.append_nil]
    exact List.takeWhile_append_dropWhile.symm
  conv_rhs => rw [split]
  refine (trim_filter_of_padding (fun c hc => List.mem_takeWhile_imp hc) ?_ p _).symm
  exact fun c hc => nomatch hc

-----------------------------------------------------------------------------------------
-- Each fence takes white space with it, but nothing else of the text
-----------------------------------------------------------------------------------------

/-- An opening fence goes with its tag and the white space after it: the line feed ends the tag. -/
theorem afterOpeningFence_append {tag : List Char} (word : ∀ c ∈ tag, isTagChar c = true)
    (cs : List Char)
    : afterOpeningFence (codeFence ++ (tag ++ '\n' :: cs)) = trimLeft cs := by
  have ends : isTagChar '\n' = false := by decide +kernel
  have blank : isBlank '\n' = true := by decide
  have opened : (codeFence ++ (tag ++ '\n' :: cs)).drop 3 = tag ++ '\n' :: cs := rfl
  rw [afterOpeningFence, opened, List.dropWhile_append_of_pos word,
    List.dropWhile_cons_of_neg (by simp [ends]), trimLeft, List.dropWhile_cons_of_pos blank,
    trimLeft]

/-- A closing fence goes with the line feed before it, whatever stands before that. -/
theorem beforeClosingFence_append (cs : List Char)
    : beforeClosingFence (cs ++ '\n' :: codeFence) = cs := by
  have suffix : codeFence.isSuffixOf (cs ++ '\n' :: codeFence) = true :=
    List.isSuffixOf_iff_suffix.mpr ⟨cs ++ ['\n'], by simp⟩
  have body : (cs ++ '\n' :: codeFence).take ((cs ++ '\n' :: codeFence).length - 3)
      = cs ++ ['\n'] := by
    have regroup : cs ++ '\n' :: codeFence = (cs ++ ['\n']) ++ codeFence := by simp
    rw [regroup]
    exact List.take_left' (by simp [codeFence])
  simp only [beforeClosingFence, if_pos suffix, body, List.getLast?_concat, if_true,
    List.dropLast_concat]

/-- Between fences stands the text without its leading white space. If the text is all white
space, the line feed before the closing fence is taken off with the opening one.
-/
theorem beforeClosingFence_trimLeft (cs : List Char)
    : beforeClosingFence (trimLeft (cs ++ '\n' :: codeFence)) = trimLeft cs := by
  cases hl : trimLeft cs with
  | nil =>
      have blank : ∀ c ∈ cs, isBlank c = true := List.dropWhile_eq_nil_iff.mp hl
      have rest : trimLeft (cs ++ '\n' :: codeFence) = codeFence := by
        rw [trimLeft, List.dropWhile_append_of_pos blank]
        decide
      rw [rest]
      decide
  | cons c rest =>
      have split : cs ++ '\n' :: codeFence
          = cs.takeWhile isBlank ++ (trimLeft cs ++ '\n' :: codeFence) := by
        rw [← List.append_assoc, trimLeft, List.takeWhile_append_dropWhile]
      have visible : isBlank c = false := @head_trimLeft cs c (by simp [hl])
      have begins : trimLeft (cs ++ '\n' :: codeFence) = c :: rest ++ '\n' :: codeFence := by
        rw [split, trimLeft, List.dropWhile_append_of_pos fun c hc => List.mem_takeWhile_imp hc,
          hl, List.cons_append, List.dropWhile_cons_of_neg (by simp [visible])]
      rw [begins, beforeClosingFence_append]

/-- A fenced text begins and ends with its fences. -/
theorem isTrimmed_fenced (tag text : String)
    : IsTrimmed (fenced tag text).toList := by
  have visible : isBlank '\x60' = false := by decide
  have regroup : (fenced tag text).toList
      = codeFence ++ (tag.toList ++ '\n' :: (text.toList ++ ['\n'])) ++ codeFence := by
    simp [toList_fenced]
  rw [regroup]
  exact isTrimmed_cons_append visible (getLast_concat visible ['\x60', '\x60'])
    (List.cons_ne_nil _ _)

/-- A fenced text is cleaned to what is left of the text between the fences. -/
theorem withoutFence_eq_of_fenced {tag : String} (word : ∀ c ∈ tag.toList, isTagChar c = true)
    (text : String)
    : withoutFence (fenced tag text)
      = String.ofList (trim (text.toList.filter (· ≠ '%'))) := by
  have opens : codeFence.isPrefixOf (fenced tag text).toList = true := by
    rw [List.isPrefixOf_iff_prefix, toList_fenced]
    exact List.prefix_append _ _
  rw [withoutFence, (isTrimmed_fenced tag text).trim_eq, if_pos opens, toList_fenced,
    afterOpeningFence_append word, beforeClosingFence_trimLeft, trim_filter_trimLeft]

/-- A text that does not begin with a fence keeps everything but percent signs and outer white
space.
-/
theorem withoutFence_of_unfenced {text : String} (bare : ¬ codeFence <+: trim text.toList)
    : withoutFence text = String.ofList (trim (text.toList.filter (· ≠ '%'))) := by
  have opens : ¬ codeFence.isPrefixOf (trim text.toList) = true :=
    fun h => bare (List.isPrefixOf_iff_prefix.mp h)
  rw [withoutFence, if_neg opens, trim_filter_trim]

/-- A fence around a text that does not begin with a fence itself makes no difference, whatever
fences and white space the text holds or ends with: in either case percent signs and outer white
space are taken off, and nothing else.
-/
theorem withoutFence_fenced {tag text : String} (word : ∀ c ∈ tag.toList, isTagChar c = true)
    (bare : ¬ codeFence <+: trim text.toList)
    : withoutFence (fenced tag text) = withoutFence text
      ∧ withoutFence text = String.ofList (trim (text.toList.filter (· ≠ '%'))) :=
  ⟨(withoutFence_eq_of_fenced word text).trans (withoutFence_of_unfenced bare).symm,
    withoutFence_of_unfenced bare⟩

/-- A text with blank lines at both ends, percent signs and fences of its own, one of them at its
end.
-/
def answer : String :=
  " \n\n%Table rates \x7b\n  ``` share % ```\n\n\x7d\n```\n``````\n\n"

/-- The text of this answer, fenced or not. -/
theorem withoutFence_fenced_answer
    : (∀ c ∈ "sql-dbml_2".toList, isTagChar c = true) ∧ ¬ codeFence <+: trim answer.toList
      ∧ withoutFence (fenced "sql-dbml_2" answer) = withoutFence answer
      ∧ withoutFence answer = String.ofList (trim (answer.toList.filter (· ≠ '%')))
      ∧ withoutFence answer = "Table rates \x7b\n  ``` share  ```\n\n\x7d\n```\n``````" :=
  have word : ∀ c ∈ "sql-dbml_2".toList, isTagChar c = true :=
    List.all_eq_true.mp (by decide +kernel)
  have bare : ¬ codeFence <+: trim answer.toList := by decide +kernel
  have same := withoutFence_fenced word bare
  ⟨word, bare, same.1, same.2, by decide +kernel⟩

end SchemaMarkup.Markup
