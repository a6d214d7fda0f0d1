import Mathlib.Data.String.Basic
import Mathlib.Order.Bounds.Basic
import SchemaMarkup.Text.Order
import SchemaMarkup.Text.Search

/-! Looking through texts. The parts of a text between separators, joined again, are the text, and
the parts of two texts around a separator are those of one and then those of the other. The first
of sorted names that satisfies a condition is the least of those that do.
-/

namespace SchemaMarkup.Text

-----------------------------------------------------------------------------------------
-- Parts between separators
-----------------------------------------------------------------------------------------

theorem splitOn_ne_nil (separator : Char) (s : String)
    : splitOn separator s ≠ [] := by
  simp [splitOn]

/-- The parts of a text, joined, are the text. -/
theorem intercalate_splitOn (separator : Char) (s : String)
    : (String.singleton separator).intercalate (splitOn separator s) = s := by
  rw [← String.toList_inj, String.toList_intercalate, String.toList_singleton, splitOn,
    List.map_map]
  simp [Function.comp_def]

/-- The parts of a text around a separator are those before it and those after it. -/
theorem splitOn_append (separator : Char) (s t : String)
    : splitOn separator (s ++ String.singleton separator ++ t)
      = splitOn separator s ++ splitOn separator t := by
  simp only [splitOn, String.toList_append, String.toList_singleton, List.append_assoc,
    List.singleton_append, List.splitOn_append_cons_self, List.map_append]

-----------------------------------------------------------------------------------------
-- The least of several names
-----------------------------------------------------------------------------------------

section

variable {names others : List String} {p : String → Bool} {a : String}

theorem mem_sorted
    : a ∈ sorted names ↔ a ∈ names :=
  List.mem_mergeSort

theorem pairwise_sorted (names : List String)
    : (sorted names).Pairwise (· ≤ ·) := by
  have h : (sorted names).Pairwise fun a b => decide (a ≤ b) = true := by
    refine List.pairwise_mergeSort ?_ ?_ names
    · exact fun a b c hab hbc =>
        decide_eq_true (le_trans (of_decide_eq_true hab) (of_decide_eq_true hbc))
    · exact fun a b => by simpa using le_total a b
  exact h.imp of_decide_eq_true

/-- Names are put in the only order in which each is at most the next. -/
theorem sorted_eq_of_perm (perm : others.Perm names) (order : others.Pairwise (· ≤ ·))
    : sorted names = others :=
  ((List.mergeSort_perm names _).trans perm.symm).eq_of_pairwise
    (fun _ _ _ _ hab hba => le_antisymm hab hba) (pairwise_sorted names) order

/-- What is found first among sorted names is the least name of its kind. -/
theorem find?_sorted_eq_some_iff
    : (sorted names).find? p = some a ↔ IsLeast {b | b ∈ names ∧ p b = true} a := by
  have least {a : String} (h : (sorted names).find? p = some a)
      : IsLeast {b | b ∈ names ∧ p b = true} a := by
    obtain ⟨found, before, after, split, passed⟩ := List.find?_eq_some_iff_append.mp h
    refine ⟨⟨mem_sorted.mp (List.mem_of_find?_eq_some h), found⟩, ?_⟩
    rintro b ⟨hb, hp⟩
    have order := pairwise_sorted names
    rw [← mem_sorted, split, List.mem_append, List.mem_cons] at hb
    rw [split, List.pairwise_append, List.pairwise_cons] at order
    rcases hb with hb | rfl | hb
    · exact absurd (passed b hb) (by simp [hp])
    · exact le_refl b
    · exact order.2.1.1 b hb
  constructor
  · exact least
  · intro h
    obtain ⟨⟨hm, hp⟩, _⟩ := id h
    obtain ⟨b, hb⟩ := Option.isSome_iff_exists.mp
      (List.find?_isSome.mpr ⟨a, mem_sorted.mpr hm, hp⟩)
    rw [hb, (least hb).unique h]

theorem find?_sorted_eq_none_iff
    : (sorted names).find? p = none ↔ ∀ a ∈ names, p a = false := by
  simp [List.find?_eq_none, mem_sorted]

/-- Of the names of a kind, if there are any, one is the least. -/
theorem exists_isLeast {P : String → Prop} (h : ∃ a ∈ names, P a)
    : ∃ a, IsLeast {b | b ∈ names ∧ P b} a := by
  classical
  obtain ⟨b, hb, hp⟩ := h
  have found : ((sorted names).find? fun b => decide (P b)).isSome :=
    List.find?_isSome.mpr ⟨b, mem_sorted.mpr hb, decide_eq_true hp⟩
  obtain ⟨a, ha⟩ := Option.isSome_iff_exists.mp found
  refine ⟨a, ?_⟩
  simpa only [decide_eq_true_iff] using find?_sorted_eq_some_iff.mp ha

/-- What is found depends neither on the order of names nor on how often they are repeated. -/
theorem find?_sorted_congr (h : ∀ a, a ∈ others ↔ a ∈ names) (p : String → Bool)
    : (sorted others).find? p = (sorted names).find? p := by
  refine Option.ext fun a => ?_
  simp only [find?_sorted_eq_some_iff, h]

end

end SchemaMarkup.Text
