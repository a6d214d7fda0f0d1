import Mathlib.Data.List.Basic
import SchemaMarkup.Text.Blank
import SchemaMarkup.Text.Case
import SchemaMarkup.Text.Word

/-! Word characters are told apart from white space and from the marks that structure a text. -/

namespace SchemaMarkup.Text

/-- The codes of the blank characters. -/
def blankRanges : List (Nat × Nat) := [
  (0x20, 0x20), (0x09, 0x0D), (0x1C, 0x1F), (0x85, 0x85), (0xA0, 0xA0), (0x1680, 0x1680),
  (0x2000, 0x200A), (0x2028, 0x2028), (0x2029, 0x2029), (0x202F, 0x202F), (0x205F, 0x205F),
  (0x3000, 0x3000)]

/-- Blank are the characters in these ranges. -/
theorem isBlank_eq_inRanges (c : Char)
    : isBlank c = inRanges blankRanges c.toNat := by
  have hs (n m : Nat) : (n == m) = (decide (m ≤ n) && decide (n ≤ m)) := by
    rw [Bool.eq_iff_iff]
    simp [Nat.le_antisymm_iff, and_comm]
  simp only [isBlank, inRanges, blankRanges, hs, List.any_cons, List.any_nil, Bool.or_false,
    Bool.or_assoc]

/-- No range of word characters above ASCII meets a blank one, range by range. -/
theorem wordRanges_apart
    : (wordRanges.all fun w => blankRanges.all fun b => Nat.blt w.2 b.1 || Nat.blt b.2 w.1)
      = true := by
  decide +kernel

/-- The codes of ASCII word characters. -/
theorem isWord_cases {c : Char} (h : isWord c = true)
    : (0x30 ≤ c.toNat ∧ c.toNat ≤ 0x7A) ∨ inRanges wordRanges c.toNat = true := by
  simp only [isWord, Bool.or_eq_true, Bool.and_eq_true, beq_iff_eq] at h
  rcases h with (h | rfl) | h
  · left
    delta Char.isAlphanum Char.isAlpha Char.isUpper Char.isLower Char.isDigit at h
    simp only [Bool.or_eq_true, Bool.and_eq_true, decide_eq_true_eq, ge_iff_le,
      UInt32.le_iff_toNat_le] at h
    change (0x41 ≤ c.toNat ∧ c.toNat ≤ 0x5A ∨ 0x61 ≤ c.toNat ∧ c.toNat ≤ 0x7A)
      ∨ 0x30 ≤ c.toNat ∧ c.toNat ≤ 0x39 at h
    omega
  · exact .inl (by decide)
  · exact .inr h.2

/-- A word character is visible. -/
theorem isBlank_of_isWord {c : Char} (h : isWord c = true)
    : isBlank c = false := by
  by_contra hb
  rw [Bool.not_eq_false, isBlank_eq_inRanges, inRanges_iff] at hb
  obtain ⟨b, hb, hfirst, hlast⟩ := hb
  rcases isWord_cases h with hw | hw
  · have hascii : ∀ b ∈ blankRanges, b.2 < 0x30 ∨ 0x7A < b.1 := by decide
    have hout := hascii b hb
    omega
  · obtain ⟨w, hw, hl, hr⟩ := inRanges_iff.mp hw
    have ha := List.all_eq_true.mp (List.all_eq_true.mp wordRanges_apart w hw) b hb
    rw [Bool.or_eq_true, Nat.blt_eq, Nat.blt_eq] at ha
    omega

theorem ne_of_isWord {c d : Char} (h : isWord c = true) (hd : isWord d = false)
    : c ≠ d := by
  intro he
  subst he
  rw [h] at hd
  cases hd

/-- What folds to a letter is a word character. -/
theorem isWord_of_foldCase {c : Char} (h : (foldCase c).isAlpha = true)
    : isWord c = true := by
  rw [foldCase] at h
  split at h
  · rename_i long
    rw [long]
    decide +kernel
  · split at h
    · rename_i kelvin
      rw [kelvin]
      decide +kernel
    · have alpha : c.isAlpha = true := by
        by_cases upper : c.isUpper = true
        · exact Bool.or_eq_true_iff.mpr (.inl upper)
        · have same : c.toLower = c := dif_neg fun range => upper (decide_eq_true range)
          rwa [same] at h
      exact isWord_of_isAlphanum (Bool.or_eq_true_iff.mpr (.inl alpha))

/-- A word holds at least one character, all of them word characters. -/
theorem isWordText_iff {s : String}
    : isWordText s = true ↔ s.toList ≠ [] ∧ ∀ c ∈ s.toList, isWord c = true := by
  simp [isWordText]

end SchemaMarkup.Text
