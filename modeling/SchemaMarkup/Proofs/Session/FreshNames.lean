import Mathlib.Data.List.Nodup
import Std.Data.String.ToNat
import SchemaMarkup.Session.Edit

/-! Provisional names. The names of different numbers differ, so among one more name than are
taken there is a free one.
-/

namespace SchemaMarkup.Session

/-- Provisional names of different numbers differ: the bare name is the shortest, and the
others end in their numbers.
-/
theorem freshName_injective (stem : String)
    : Function.Injective (freshName stem) := by
  have longer (n : Nat) : stem ≠ stem ++ "_" ++ toString (n + 1) := by
    intro h
    have hl := congrArg String.length h
    have hu : "_".length = 1 := rfl
    simp only [String.length_append, hu] at hl
    omega
  intro a b h
  cases a with
  | zero =>
      cases b with
      | zero => rfl
      | succ b => exact absurd h (longer b)
  | succ a =>
      cases b with
      | zero => exact absurd h.symm (longer a)
      | succ b =>
          have hr : toString (a + 1) = toString (b + 1) := by
            have hl := congrArg String.toList h
            simp only [freshName, String.toList_append, List.append_cancel_left_eq] at hl
            exact String.toList_inj.mp hl
          exact Nat.repr_injective hr

/-- The provisional name that is chosen is not taken, since the candidates are distinct and
one more than the taken names.
-/
theorem freeName_notMem (stem : String) (taken : List String)
    : freeName stem taken ∉ taken := by
  let names := (List.range (taken.length + 1)).map (freshName stem)
  have hn : names.Nodup := List.nodup_range.map (freshName_injective stem)
  have hex : ∃ n ∈ names, n ∉ taken := by
    by_contra h
    push Not at h
    have hl := hn.length_le_of_subset h
    simp only [names, List.length_map, List.length_range] at hl
    omega
  cases hf : names.find? fun n => decide (n ∉ taken) with
  | none =>
      obtain ⟨n, hm, ht⟩ := hex
      simpa [ht] using List.find?_eq_none.mp hf n hm
  | some n =>
      have he : freeName stem taken = n := by
        simp only [freeName]
        rw [hf, Option.getD_some]
      rw [he]
      simpa using List.find?_some hf

/-- The name of a table to be added is not reserved. -/
theorem nameToAdd_notMem {s : Session} {name? : Option String} {name : String}
    (h : s.nameToAdd name? = .ok name)
    : name ∉ s.reservedNames none := by
  cases name? with
  | none =>
      rw [← Except.ok.inj h]
      exact freeName_notMem _ _
  | some given =>
      simp only [nameToAdd] at h
      split at h
      · cases h
      · split at h
        · cases h
        · rename_i hfree
          exact Except.ok.inj h ▸ hfree

end SchemaMarkup.Session
