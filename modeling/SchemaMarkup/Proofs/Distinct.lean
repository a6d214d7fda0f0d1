import Mathlib.Data.List.Forall2
import Mathlib.Data.List.Nodup
import SchemaMarkup.Distinct

/-! First elements of each key: which keys they have and which element each key keeps. -/

namespace SchemaMarkup

variable {α κ : Type}

section FirstOfEachKey

variable [DecidableEq κ]

theorem mem_of_mem_distinctBy {key : α → κ} {seen : List κ} {as : List α} {a : α}
    (h : a ∈ distinctBy key seen as)
    : a ∈ as :=
  (distinctBy_sublist key seen as).subset h

/-- The keys of the kept elements are those of all elements but the ones seen before, by
induction on the elements.
-/
theorem mem_map_distinctBy {key : α → κ} {seen : List κ} {as : List α} {k : κ}
    : k ∈ (distinctBy key seen as).map key ↔ k ∉ seen ∧ k ∈ as.map key := by
  induction as generalizing seen with
  | nil => simp [distinctBy]
  | cons a as ih =>
      rw [distinctBy]
      by_cases hs : key a ∈ seen
      · rw [if_pos hs, ih, List.map_cons, List.mem_cons]
        constructor
        · exact fun h => ⟨h.1, .inr h.2⟩
        · intro h
          rcases h with ⟨hk, rfl | h⟩
          · exact absurd hs hk
          · exact ⟨hk, h⟩
      · rw [if_neg hs, List.map_cons, List.map_cons, List.mem_cons, List.mem_cons, ih]
        by_cases hk : k = key a
        · simp [hk, hs]
        · simp [hk]

theorem mem_map_distinctBy_nil {key : α → κ} {as : List α} {k : κ}
    : k ∈ (distinctBy key [] as).map key ↔ k ∈ as.map key := by
  simp [mem_map_distinctBy]

/-- An element is kept if its key was not seen and it is the first of its key, by induction on the
elements: those that are left out repeat a key.
-/
theorem mem_distinctBy {key : α → κ} {seen : List κ} {as : List α} {a : α}
    : a ∈ distinctBy key seen as ↔ key a ∉ seen ∧ as.find? (key · = key a) = some a := by
  induction as generalizing seen with
  | nil => simp [distinctBy]
  | cons b bs ih =>
      rw [distinctBy, List.find?_cons]
      by_cases hb : key b = key a
      · rw [decide_eq_true hb, ← hb]
        split
        · rename_i hs
          refine ⟨fun h => absurd hs ?_, fun h => absurd hs h.1⟩
          exact hb ▸ key_notMem_of_mem_distinctBy h
        · rename_i hs
          rw [List.mem_cons, ih]
          constructor
          · intro h
            rcases h with rfl | ⟨h, _⟩
            · exact ⟨hs, rfl⟩
            · exact absurd (hb ▸ List.mem_cons_self) h
          · exact fun h => .inl (Option.some.inj h.2).symm
      · rw [decide_eq_false hb]
        split
        · exact ih
        · have ha : a ≠ b := fun h => hb (congrArg key h.symm)
          rw [List.mem_cons, ih, List.mem_cons]
          simp [ha, Ne.symm hb]

/-- A kept element heads the elements with its key. -/
theorem exists_filter_of_mem_distinctBy {key : α → κ} {as : List α} {a : α}
    (h : a ∈ distinctBy key [] as)
    : ∃ more, (as.filter fun b => key b = key a) = a :: more := by
  have head := (mem_distinctBy.mp h).2
  rw [← List.head?_filter] at head
  exact List.head?_eq_some_iff.mp head

/-- Elements with distinct keys of which none was seen are all kept, by induction. -/
theorem distinctBy_eq_self {key : α → κ} {seen : List κ} {as : List α}
    (h : (as.map key).Nodup) (hs : ∀ a ∈ as, key a ∉ seen)
    : distinctBy key seen as = as := by
  induction as generalizing seen with
  | nil => rfl
  | cons a as ih =>
      rw [List.map_cons, List.nodup_cons] at h
      rw [distinctBy, if_neg (hs a List.mem_cons_self), ih h.2]
      intro b hb hm
      rcases List.mem_cons.mp hm with he | hm
      · exact h.1 (he ▸ List.mem_map_of_mem hb)
      · exact hs b (List.mem_cons_of_mem a hb) hm

theorem distinctBy_nil_eq_self {key : α → κ} {as : List α} (h : (as.map key).Nodup)
    : distinctBy key [] as = as :=
  distinctBy_eq_self h fun _ _ => List.not_mem_nil

/-- Elements of which all keys were seen are all left out, by induction. -/
theorem distinctBy_eq_nil {key : α → κ} {seen : List κ} {as : List α}
    (h : ∀ a ∈ as, key a ∈ seen)
    : distinctBy key seen as = [] := by
  induction as with
  | nil => rfl
  | cons a as ih =>
      rw [distinctBy, if_pos (h a List.mem_cons_self)]
      exact ih fun b hb => h b (List.mem_cons_of_mem a hb)

/-- The keys of the kept elements are those of all elements, each where it first occurs, by
induction on the elements.
-/
theorem map_distinctBy {key : α → κ} {seen : List κ} {as : List α}
    : (distinctBy key seen as).map key = ((as.map key).filter (· ∉ seen)).eraseDups := by
  induction as generalizing seen with
  | nil => rfl
  | cons a as ih =>
      rw [distinctBy, List.map_cons]
      split
      · rename_i hs
        rw [ih, List.filter_cons_of_neg (by simpa using hs)]
      · rename_i hs
        rw [List.map_cons, ih, List.filter_cons_of_pos (by simpa using hs), List.eraseDups_cons,
          List.filter_filter]
        refine congrArg (fun ks => key a :: ks.eraseDups) (List.filter_congr fun k _ => ?_)
        rw [Bool.eq_iff_iff]
        simp

theorem map_distinctBy_nil {key : α → κ} {as : List α}
    : (distinctBy key [] as).map key = (as.map key).eraseDups := by
  simp [map_distinctBy]

/-- The kept elements are the first ones of the keys that occur. -/
theorem distinctBy_eq_filterMap {key : α → κ} {as : List α}
    : distinctBy key [] as
      = (as.map key).eraseDups.filterMap fun k => as.find? (key · = k) := by
  have first : ∀ a ∈ distinctBy key [] as,
      ((fun k => as.find? (key · = k)) ∘ key) a = some a :=
    fun a ha => (mem_distinctBy.mp ha).2
  rw [← map_distinctBy_nil, List.filterMap_map, List.filterMap_congr first, List.filterMap_some]

/-- Elements can be left out by their keys before or after. By induction on the elements, where keys
of elements that are left out anyway may have been seen or not.
-/
theorem distinctBy_filter {key : α → κ} (p : κ → Bool) {seen seen' : List κ} {as : List α}
    (same : ∀ k, p k = true → (k ∈ seen ↔ k ∈ seen'))
    : distinctBy key seen (as.filter fun a => p (key a))
      = (distinctBy key seen' as).filter fun a => p (key a) := by
  induction as generalizing seen seen' with
  | nil => rfl
  | cons a as ih =>
      by_cases hp : p (key a) = true
      · have next : ∀ k, p k = true → (k ∈ key a :: seen ↔ k ∈ key a :: seen') := by
          intro k hk
          rw [List.mem_cons, List.mem_cons, same k hk]
        rw [List.filter_cons, if_pos hp, distinctBy, distinctBy, ih same, ih next]
        by_cases hs : key a ∈ seen
        · rw [if_pos hs, if_pos ((same _ hp).mp hs)]
        · rw [if_neg hs, if_neg fun h => hs ((same _ hp).mpr h), List.filter_cons, if_pos hp]
      · have next : ∀ k, p k = true → (k ∈ seen ↔ k ∈ key a :: seen') := by
          intro k hk
          have hne : k ≠ key a := fun he => hp (he ▸ hk)
          rw [List.mem_cons, same k hk, or_iff_right hne]
        rw [List.filter_cons, if_neg hp, distinctBy]
        split
        · exact ih same
        · rw [List.filter_cons, if_neg hp, ih next]

/-- If elements are left out by their keys, the first ones of the other keys are kept. -/
theorem distinctBy_filter_eq_filterMap {key : α → κ} (p : κ → Bool) {as : List α}
    : distinctBy key [] (as.filter fun a => p (key a))
      = ((as.map key).eraseDups.filter p).filterMap fun k => as.find? (key · = k) := by
  rw [distinctBy_filter p (fun _ _ => Iff.rfl), distinctBy_eq_filterMap, List.filter_filterMap,
    List.filterMap_filter]
  refine List.filterMap_congr fun k _ => ?_
  cases hf : as.find? (key · = k) with
  | none => simp
  | some a =>
      have ha : key a = k := by simpa using List.find?_some hf
      rw [Option.filter_some, ha]

/-- Looking for an element by its key alone finds the same with repetitions as without, by induction
on the elements: those that are left out come after one with their key.
-/
theorem find?_distinctBy {key : α → κ} (p : κ → Bool) {seen : List κ} {as : List α}
    (unseen : ∀ k ∈ seen, p k = false)
    : (distinctBy key seen as).find? (fun a => p (key a)) = as.find? fun a => p (key a) := by
  induction as generalizing seen with
  | nil => rfl
  | cons a as ih =>
      rw [distinctBy]
      cases hp : p (key a) with
      | true =>
          have new : key a ∉ seen := fun hs => Bool.false_ne_true ((unseen _ hs).symm.trans hp)
          simp only [if_neg new, List.find?_cons, hp]
      | false =>
          have next : ∀ k ∈ key a :: seen, p k = false := List.forall_mem_cons.mpr ⟨hp, unseen⟩
          split
          · simp only [List.find?_cons, hp, ih unseen]
          · simp only [List.find?_cons, hp, ih next]

/-- Lists that are related element by element, where related elements have one key, have related
first elements of each key, by induction on the lists.
-/
theorem forall₂_distinctBy {R : α → α → Prop} {key : α → κ} {seen : List κ} {as bs : List α}
    (same : ∀ a b, R a b → key b = key a) (h : List.Forall₂ R as bs)
    : List.Forall₂ R (distinctBy key seen as) (distinctBy key seen bs) := by
  induction h generalizing seen with
  | nil => exact .nil
  | @cons a b _ _ hab _ ih =>
      rw [distinctBy, distinctBy, same a b hab]
      split
      · exact ih
      · exact .cons hab ih

/-- Of elements with distinct keys, exactly one has the key of a given one, by induction. -/
theorem filter_key_eq_singleton {key : α → κ} {as : List α} {a : α} (h : (as.map key).Nodup)
    (ha : a ∈ as)
    : (as.filter fun b => key b = key a) = [a] := by
  induction as with
  | nil => cases ha
  | cons b bs ih =>
      rw [List.map_cons, List.nodup_cons] at h
      rcases List.mem_cons.mp ha with rfl | ha
      · have none : (bs.filter fun c => key c = key a) = [] := by
          refine List.filter_eq_nil_iff.mpr fun c hc hk => h.1 ?_
          exact of_decide_eq_true hk ▸ List.mem_map_of_mem hc
        rw [List.filter_cons_of_pos (by simp), none]
      · have hb : key b ≠ key a := fun hk => h.1 (hk ▸ List.mem_map_of_mem ha)
        rw [List.filter_cons_of_neg (by simpa using hb), ih h.2 ha]

end FirstOfEachKey

/-- No element is left twice when repetitions are dropped, by induction on the number of
elements: each step drops the repetitions of the first.
-/
theorem nodup_eraseDups [DecidableEq α] (as : List α)
    : as.eraseDups.Nodup := by
  cases as with
  | nil => exact .nil
  | cons a as =>
      rw [List.eraseDups_cons, List.nodup_cons]
      refine ⟨?_, nodup_eraseDups _⟩
      intro h
      have ha := (List.mem_filter.mp (List.mem_eraseDups.mp h)).2
      simp at ha
termination_by as.length
decreasing_by
  exact Nat.lt_succ_of_le (List.length_filter_le _ as)

/-- Elements made from others, each with the key of the one it is made from, have the keys of
those in order, by induction on the elements they are made from.
-/
theorem map_filterMap_sublist {β : Type} {f : α → Option β} {key : α → κ} {key' : β → κ}
    (h : ∀ a b, f a = some b → key' b = key a) (as : List α)
    : ((as.filterMap f).map key').Sublist (as.map key) := by
  induction as with
  | nil => exact .slnil
  | cons a as ih =>
      cases hf : f a with
      | none => simpa [List.filterMap_cons, hf] using ih.cons (key a)
      | some b => simpa [List.filterMap_cons, hf, h a b hf] using ih.cons_cons (key a)

end SchemaMarkup
