/-! Keeping the first of several elements with the same key. -/

namespace SchemaMarkup

/-- The elements whose keys are new: not among those seen and not repeated. -/
def distinctBy {α κ : Type} [DecidableEq κ] (key : α → κ) (seen : List κ) : List α → List α
  | [] => []
  | a :: as =>
    if key a ∈ seen then distinctBy key seen as
    else a :: distinctBy key (key a :: seen) as

/-- The kept elements are a sublist, by induction. -/
theorem distinctBy_sublist {α κ : Type} [DecidableEq κ] (key : α → κ) (seen : List κ)
    (as : List α)
    : (distinctBy key seen as).Sublist as := by
  induction as generalizing seen with
  | nil => exact .slnil
  | cons a as ih =>
      rw [distinctBy]
      split
      · exact (ih seen).cons a
      · exact (ih (key a :: seen)).cons_cons a

/-- No kept element has a key that was seen before, by induction. -/
theorem key_notMem_of_mem_distinctBy {α κ : Type} [DecidableEq κ] {key : α → κ}
    {seen : List κ} {as : List α} {a : α} (h : a ∈ distinctBy key seen as)
    : key a ∉ seen := by
  induction as generalizing seen with
  | nil => simp [distinctBy] at h
  | cons b as ih =>
      rw [distinctBy] at h
      split at h
      · exact ih h
      · rename_i hb
        rcases List.mem_cons.mp h with rfl | h
        · exact hb
        · exact fun hs => ih h (List.mem_cons_of_mem _ hs)

/-- The keys of the kept elements are distinct, by induction. -/
theorem nodup_keys_distinctBy {α κ : Type} [DecidableEq κ] (key : α → κ) (seen : List κ)
    (as : List α)
    : ((distinctBy key seen as).map key).Nodup := by
  induction as generalizing seen with
  | nil => simp [distinctBy]
  | cons a as ih =>
      rw [distinctBy]
      split
      · exact ih seen
      · rw [List.map_cons, List.nodup_cons]
        refine ⟨?_, ih _⟩
        intro h
        obtain ⟨b, hb, he⟩ := List.mem_map.mp h
        exact key_notMem_of_mem_distinctBy hb (he ▸ List.mem_cons_self)

end SchemaMarkup
