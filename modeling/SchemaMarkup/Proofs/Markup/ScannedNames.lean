import Mathlib.Data.List.TakeWhile
import SchemaMarkup.Proofs.Markup.Scan

/-! Names as they are scanned. Whatever is scanned as a name stands for one that can be put between
double quotes.
-/

namespace SchemaMarkup.Markup

open Text

theorem readNameChars_of_unquoted {cs : List Char} (h : '"' ∉ cs)
    : readNameChars cs = cs := by
  rw [readNameChars]
  rintro ds rfl
  exact h List.mem_cons_self

namespace Scan

theorem run_eq_some {p : Char → Bool} {cs w rest : List Char} (h : run p cs = some (w, rest))
    : w ≠ [] ∧ (∀ c ∈ w, p c = true) ∧ cs = w ++ rest := by
  rw [run] at h
  split at h
  · cases h
  · rename_i c w' hw
    obtain ⟨rfl, rfl⟩ := Prod.mk.inj (Option.some.inj h)
    rw [← hw]
    refine ⟨hw ▸ List.cons_ne_nil c w', ?_, List.takeWhile_append_dropWhile.symm⟩
    exact fun d hd => List.mem_takeWhile_imp hd

/-- What is scanned as a name is a run of bare characters or a nonempty text between double quotes,
at the beginning of the text.
-/
theorem nameOf_eq_some {bare : Char → Bool} {cs n rest : List Char}
    (h : nameOf bare cs = some (n, rest))
    : cs = n ++ rest ∧ ((n ≠ [] ∧ ∀ c ∈ n, bare c = true)
        ∨ ∃ w, n = '"' :: (w ++ ['"']) ∧ w ≠ [] ∧ '"' ∉ w) := by
  unfold nameOf at h
  split at h
  · rename_i cs
    split at h
    · rename_i c w rest' hw hr
      obtain ⟨rfl, rfl⟩ := Prod.mk.inj (Option.some.inj h)
      have hcs : cs = c :: w ++ '"' :: rest' := by
        rw [← hw, ← hr, List.takeWhile_append_dropWhile]
      refine ⟨by simp [hcs], .inr ⟨c :: w, rfl, List.cons_ne_nil c w, ?_⟩⟩
      intro hm
      rw [← hw] at hm
      simpa using List.mem_takeWhile_imp hm
    · cases h
  · obtain ⟨hne, hw, hcs⟩ := run_eq_some h
    exact ⟨hcs, .inl ⟨hne, hw⟩⟩

theorem isName_readName_unquoted {n : List Char} (hne : n ≠ []) (hq : '"' ∉ n)
    : IsName (readName (String.ofList n)) := by
  rw [readName, String.toList_ofList, readNameChars_of_unquoted hq]
  exact ⟨by simpa using hne, by simpa using hq⟩

theorem isName_readName_quoted {w : List Char} (hne : w ≠ []) (hq : '"' ∉ w)
    : IsName (readName (String.ofList ('"' :: (w ++ ['"'])))) := by
  rw [readName, String.toList_ofList, ← List.cons_append, readNameChars_quoted]
  exact ⟨by simpa using hne, by simpa using hq⟩

/-- What is scanned as a name stands for one that can be put between double quotes. -/
theorem isName_of_nameOf {bare : Char → Bool} (hb : bare '"' = false) {cs n rest : List Char}
    (h : nameOf bare cs = some (n, rest))
    : IsName (readName (String.ofList n)) := by
  rcases (nameOf_eq_some h).2 with ⟨hne, hbare⟩ | ⟨w, rfl, hne, hw⟩
  · exact isName_readName_unquoted hne fun hm => absurd (hbare _ hm) (by simp [hb])
  · exact isName_readName_quoted hne hw

theorem Written.isName {n : List Char} (h : Written n)
    : IsName (readName (String.ofList n)) := by
  cases h with
  | word nonempty chars =>
      exact isName_readName_unquoted nonempty fun hm => absurd (chars _ hm) (by decide)
  | quoted nonempty chars => exact isName_readName_quoted nonempty chars

/-- What is scanned as a name is a written name at the beginning of the text. -/
theorem name_eq_some {cs n rest : List Char} (h : Scan.name cs = some (n, rest))
    : Written n ∧ cs = n ++ rest := by
  obtain ⟨he, hn⟩ := nameOf_eq_some h
  rcases hn with ⟨hne, hw⟩ | ⟨w, rfl, hne, hw⟩
  · exact ⟨.word hne hw, he⟩
  · exact ⟨.quoted hne hw, he⟩

/-- What is scanned as a path to a field is two written names with a dot between them. -/
theorem fieldPath_eq_some {cs table field rest : List Char}
    (h : fieldPath cs = some ((table, field), rest))
    : Written table ∧ Written field ∧ cs = table ++ '.' :: (field ++ rest) := by
  obtain ⟨⟨t, cs₁⟩, ht, h⟩ := Option.bind_eq_some_iff.mp h
  obtain ⟨cs₂, hd, h⟩ := Option.bind_eq_some_iff.mp h
  obtain ⟨⟨f, cs₃⟩, hf, h⟩ := Option.bind_eq_some_iff.mp h
  obtain ⟨hp, rfl⟩ := Prod.mk.inj (Option.some.inj h)
  obtain ⟨rfl, rfl⟩ := Prod.mk.inj hp
  have hdot : cs₁ = '.' :: cs₂ := by
    cases cs₁ with
    | nil => cases hd
    | cons c cs =>
        simp only [char] at hd
        split at hd
        · rename_i hc
          rw [hc, Option.some.inj hd]
        · cases hd
  obtain ⟨htable, hcs⟩ := name_eq_some ht
  obtain ⟨hfield, hcs₂⟩ := name_eq_some hf
  exact ⟨htable, hfield, by rw [hcs, hdot, hcs₂]⟩

end Scan
end SchemaMarkup.Markup
