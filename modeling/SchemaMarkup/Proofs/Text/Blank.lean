import Mathlib.Data.List.Basic
import Mathlib.Data.List.TakeWhile
import SchemaMarkup.Text.Blank

/-! Trimming. A trimmed text begins and ends with visible characters, white space around such a
text is all that trimming removes, and trimming twice is trimming once.
-/

namespace SchemaMarkup.Text

/-- Whether a text neither begins nor ends with white space. -/
def IsTrimmed (cs : List Char) : Prop :=
  (∀ c ∈ cs.head?, isBlank c = false) ∧ (∀ c ∈ cs.getLast?, isBlank c = false)

/-- What is left of a text without its leading white space begins with a visible character. -/
theorem head_trimLeft {cs : List Char} {c : Char} (h : c ∈ (trimLeft cs).head?)
    : isBlank c = false := by
  have hd := List.head?_dropWhile_not isBlank cs
  rw [trimLeft, Option.mem_def] at h
  simpa only [h, Bool.not_eq_true] using hd

theorem getLast_trimRight {cs : List Char} {c : Char} (h : c ∈ (trimRight cs).getLast?)
    : isBlank c = false := by
  rw [trimRight, List.getLast?_reverse] at h
  exact head_trimLeft h

theorem trimLeft_eq_self {cs : List Char} (h : ∀ c ∈ cs.head?, isBlank c = false)
    : trimLeft cs = cs := by
  cases cs with
  | nil => rfl
  | cons c cs => exact List.dropWhile_cons_of_neg (by simpa using h c rfl)

/-- A text without trailing white space loses none, by its last character. -/
theorem trimRight_eq_self {cs : List Char} (h : ∀ c ∈ cs.getLast?, isBlank c = false)
    : trimRight cs = cs := by
  have hr : trimLeft cs.reverse = cs.reverse := by
    apply trimLeft_eq_self
    rwa [List.head?_reverse]
  rw [trimRight]
  rw [trimLeft] at hr
  rw [hr, List.reverse_reverse]

theorem trimRight_prefix (cs : List Char)
    : trimRight cs <+: cs := by
  rw [← List.reverse_suffix, trimRight, List.reverse_reverse]
  exact List.dropWhile_suffix isBlank

/-- A trimmed text neither begins nor ends with white space. -/
theorem isTrimmed_trim (cs : List Char)
    : IsTrimmed (trim cs) := by
  refine ⟨?_, fun c h => getLast_trimRight h⟩
  intro c h
  obtain ⟨rest, hr⟩ := trimRight_prefix (trimLeft cs)
  refine @head_trimLeft cs c ?_
  rw [← hr]
  cases ht : trimRight (trimLeft cs) with
  | nil => simp [trim, ht] at h
  | cons d ds => simpa [trim, ht] using h

theorem IsTrimmed.trim_eq {cs : List Char} (h : IsTrimmed cs)
    : trim cs = cs := by
  rw [trim, trimLeft_eq_self h.1, trimRight_eq_self h.2]

/-- Exactly the trimmed texts are left alone by trimming. -/
theorem trim_eq_self_iff {cs : List Char}
    : trim cs = cs ↔ IsTrimmed cs :=
  ⟨fun h => h ▸ isTrimmed_trim cs, IsTrimmed.trim_eq⟩

theorem getLast_append {bs : List Char} (hb : ∀ c ∈ bs.getLast?, isBlank c = false)
    (hne : bs ≠ []) (as : List Char)
    : ∀ c ∈ (as ++ bs).getLast?, isBlank c = false := by
  rwa [List.getLast?_append_of_ne_nil _ hne]

theorem isTrimmed_append {as bs : List Char} (ha : ∀ c ∈ as.head?, isBlank c = false)
    (hna : as ≠ []) (hb : ∀ c ∈ bs.getLast?, isBlank c = false) (hnb : bs ≠ [])
    : IsTrimmed (as ++ bs) := by
  refine ⟨?_, getLast_append hb hnb as⟩
  rwa [List.head?_append_of_ne_nil _ hna]

theorem getLast_concat {c : Char} (hc : isBlank c = false) (as : List Char)
    : ∀ d ∈ (as ++ [c]).getLast?, isBlank d = false := by
  intro d hd
  rw [List.getLast?_concat] at hd
  exact Option.some.inj hd ▸ hc

theorem isTrimmed_cons_append {c : Char} (hc : isBlank c = false) {as bs : List Char}
    (hb : ∀ d ∈ bs.getLast?, isBlank d = false) (hnb : bs ≠ [])
    : IsTrimmed (c :: as ++ bs) :=
  isTrimmed_append (fun _ hd => Option.some.inj hd ▸ hc) (List.cons_ne_nil c as) hb hnb

theorem trim_blank_append {bs : List Char} (hb : ∀ c ∈ bs, isBlank c = true) (cs : List Char)
    : trim (bs ++ cs) = trim cs := by
  rw [trim, trim, trimLeft, List.dropWhile_append_of_pos hb, trimLeft]

theorem trimRight_append_blank {bs : List Char} (hb : ∀ c ∈ bs, isBlank c = true)
    (cs : List Char)
    : trimRight (cs ++ bs) = trimRight cs := by
  have hr : ∀ c ∈ bs.reverse, isBlank c = true := by simpa using hb
  rw [trimRight, trimRight, List.reverse_append, List.dropWhile_append_of_pos hr]

/-- Trimming removes white space before a text and after it, and nothing else. -/
theorem exists_padding (cs : List Char)
    : ∃ before after, (∀ c ∈ before, isBlank c = true) ∧ (∀ c ∈ after, isBlank c = true)
        ∧ cs = before ++ trim cs ++ after := by
  have hl : cs = cs.takeWhile isBlank ++ trimLeft cs := List.takeWhile_append_dropWhile.symm
  have hr : trimLeft cs
      = trim cs ++ ((trimLeft cs).reverse.takeWhile isBlank).reverse := by
    rw [trim, trimRight, ← List.reverse_append, List.takeWhile_append_dropWhile,
      List.reverse_reverse]
  refine ⟨cs.takeWhile isBlank, ((trimLeft cs).reverse.takeWhile isBlank).reverse, ?_, ?_, ?_⟩
  · exact fun c hc => List.mem_takeWhile_imp hc
  · exact fun c hc => List.mem_takeWhile_imp (List.mem_reverse.mp hc)
  · rw [List.append_assoc, ← hr, ← hl]

/-- White space around a trimmed text is all that trimming removes. -/
theorem IsTrimmed.trim_padded {cs : List Char} (h : IsTrimmed cs) {before after : List Char}
    (hb : ∀ c ∈ before, isBlank c = true) (ha : ∀ c ∈ after, isBlank c = true)
    : trim (before ++ cs ++ after) = cs := by
  rw [List.append_assoc, trim_blank_append hb]
  cases cs with
  | nil =>
      rw [List.nil_append, ← List.append_nil after, trim_blank_append ha]
      rfl
  | cons c cs =>
      have hl : trimLeft (c :: cs ++ after) = c :: cs ++ after :=
        trimLeft_eq_self (by simpa using h.1)
      rw [trim, hl, trimRight_append_blank ha, trimRight_eq_self h.2]

/-- A trimmed string is blank only if it is empty, by its first character. -/
theorem isBlankText_trimmed {s : String} (h : trimmed s ≠ "")
    : isBlankText (trimmed s) = false := by
  have ht := isTrimmed_trim s.toList
  have hs : (trimmed s).toList = trim s.toList := String.toList_ofList
  cases hc : trim s.toList with
  | nil => exact absurd (String.toList_eq_nil_iff.mp (hs.trans hc)) h
  | cons c cs =>
      have hv : isBlank c = false := ht.1 c (by simp [hc])
      simp [isBlankText, hs, hc, hv]

theorem nonempty?_eq_some_iff {s : Option String} {t : String}
    : nonempty? s = some t ↔ s = some t ∧ t ≠ "" := by
  simp [nonempty?, Option.filter_eq_some_iff]

end SchemaMarkup.Text
