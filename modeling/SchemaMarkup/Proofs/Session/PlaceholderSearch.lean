import Mathlib.Order.Bounds.Basic
import SchemaMarkup.Proofs.Session.Effects
import SchemaMarkup.Proofs.Session.FreshNames

/-! The search for the provisional name of a new table. It tries one number after the other and
has no bound of its own. As only finitely many names are taken and no two numbers have the same
name, it comes to an end, and it ends with the name of the least number that is free.
-/

namespace SchemaMarkup.Session

variable {stem : String} {taken : List String}

/-- Whether the search that tries provisional names from a number on comes to an end, and with
which name. A search that goes on forever has no derivation.
-/
inductive SearchEnds (stem : String) (taken : List String) : Nat → String → Prop
  | found {number : Nat} (free : freshName stem number ∉ taken)
    : SearchEnds stem taken number (freshName stem number)
  | next {number : Nat} {name : String} (used : freshName stem number ∈ taken)
    (later : SearchEnds stem taken (number + 1) name)
    : SearchEnds stem taken number name

/-- The numbers from a given one on whose provisional names are free. -/
def freeNumbers (stem : String) (taken : List String) (first : Nat) : Set Nat :=
  {number | first ≤ number ∧ freshName stem number ∉ taken}

/-- One step of the search leaves no free number behind. -/
theorem freeNumbers_succ {first : Nat} (used : freshName stem first ∈ taken)
    : freeNumbers stem taken (first + 1) = freeNumbers stem taken first := by
  ext number
  refine and_congr_left fun free => ⟨Nat.le_of_succ_le, fun h => ?_⟩
  refine Nat.lt_of_le_of_ne h fun same => free ?_
  exact same ▸ used

/-- A search that ends has come to the least free number, by induction on its steps. -/
theorem SearchEnds.exists_isLeast {first : Nat} {name : String}
    (ends : SearchEnds stem taken first name)
    : ∃ number, IsLeast (freeNumbers stem taken first) number
        ∧ name = freshName stem number := by
  induction ends with
  | @found number free =>
      exact ⟨number, ⟨⟨Nat.le_refl number, free⟩, fun _ h => h.1⟩, rfl⟩
  | next used _ ih => exact freeNumbers_succ used ▸ ih

/-- A search ends if a number that it comes to is free, by induction on the steps that lie ahead
of it.
-/
theorem SearchEnds.of_isLeast {steps first : Nat}
    (least : IsLeast (freeNumbers stem taken first) (first + steps))
    : SearchEnds stem taken first (freshName stem (first + steps)) := by
  induction steps generalizing first with
  | zero => exact .found least.1.2
  | succ steps ih =>
      have used : freshName stem first ∈ taken := by
        by_contra free
        have early := least.2 ⟨Nat.le_refl first, free⟩
        omega
      have shift : first + (steps + 1) = first + 1 + steps := by omega
      rw [shift] at least ⊢
      exact .next used (ih (freeNumbers_succ used ▸ least))

/-- A search ends with the name of the least free number, and only with that name. -/
theorem searchEnds_iff {first : Nat} {name : String}
    : SearchEnds stem taken first name
      ↔ ∃ number, IsLeast (freeNumbers stem taken first) number
          ∧ name = freshName stem number := by
  constructor
  · exact SearchEnds.exists_isLeast
  · rintro ⟨number, least, rfl⟩
    obtain ⟨steps, rfl⟩ := Nat.exists_eq_add_of_le least.1.1
    exact .of_isLeast least

/-- The free name that is chosen has the least free number, and that is at most the number of
names that are taken.
-/
theorem exists_isLeast_freeName (stem : String) (taken : List String)
    : ∃ number ≤ taken.length, IsLeast (freeNumbers stem taken 0) number
        ∧ freeName stem taken = freshName stem number := by
  have free := freeName_notMem stem taken
  rw [freeName, List.find?_map] at free ⊢
  cases found : (List.range (taken.length + 1)).find?
      ((fun n => decide (n ∉ taken)) ∘ freshName stem) with
  | none =>
      -- Without a free number in reach the bare name would be chosen, but that one is number zero.
      rw [found] at free
      exact absurd (decide_eq_true free) (List.find?_eq_none.mp found 0 (by simp))
  | some number =>
      obtain ⟨hf, hm, before⟩ := List.find?_range_eq_some.mp found
      refine ⟨number, Nat.le_of_lt_succ (List.mem_range.mp hm), ⟨⟨Nat.zero_le _, ?_⟩, ?_⟩, rfl⟩
      · simpa using hf
      · rintro other ⟨_, free⟩
        by_contra early
        exact free (by simpa using before other (Nat.lt_of_not_le early))

/-- A new table without a name of its own is called `new_table` if that is free, and otherwise takes
the least number from one on with which the name is free. The name is the only one with which the
search for it ends, and it was not reserved.
-/
theorem addTable_takes_least_free_name (s : Session)
    : let taken := s.reservedNames none
      ∃ name, s.addTable none = .ok (name, s.withNewTable name)
        ∧ name ∉ taken
        ∧ (∀ name', SearchEnds "new_table" taken 0 name' ↔ name' = name)
        ∧ ("new_table" ∉ taken ∧ name = "new_table"
          ∨ "new_table" ∈ taken
            ∧ ∃ number, IsLeast {k | 1 ≤ k ∧ "new_table_" ++ toString k ∉ taken} number
                ∧ number ≤ taken.length ∧ name = "new_table_" ++ toString number) := by
  intro taken
  obtain ⟨number, bound, least, chosen⟩ := exists_isLeast_freeName "new_table" taken
  refine ⟨freshName "new_table" number, ?_, least.1.2, fun name' => ?_, ?_⟩
  · rw [← chosen]
    rfl
  · rw [searchEnds_iff]
    constructor
    · rintro ⟨other, least', rfl⟩
      rw [least'.unique least]
    · rintro rfl
      exact ⟨number, least, rfl⟩
  · cases number with
    | zero => exact .inl ⟨least.1.2, rfl⟩
    | succ number =>
        have bare : "new_table" ∈ taken := by
          by_contra free
          exact absurd (least.2 ⟨Nat.le_refl 0, free⟩) (Nat.not_succ_le_zero number)
        rw [← freeNumbers_succ bare] at least
        refine .inr ⟨bare, number + 1, ⟨⟨Nat.succ_pos number, least.1.2⟩, ?_⟩, bound, rfl⟩
        rintro k ⟨positive, free⟩
        obtain ⟨k, rfl⟩ := Nat.exists_eq_add_of_le' positive
        exact least.2 ⟨positive, free⟩

end SchemaMarkup.Session
