import Mathlib.Data.List.Nodup
import SchemaMarkup.OrderedMap

/-! Ordered maps seen through their entries. A pair is an entry exactly when looking up its key
finds its value, and every operation is described by the entries it leaves.
-/

namespace SchemaMarkup.OrderedMap

variable {κ β γ : Type}

theorem mem_keys {m : OrderedMap κ β} {k : κ}
    : k ∈ m.keys ↔ ∃ v, (k, v) ∈ m.entries := by
  simp [keys]

theorem mem_values {m : OrderedMap κ β} {v : β}
    : v ∈ m.values ↔ ∃ k, (k, v) ∈ m.entries := by
  simp [values]

/-- Entries of one key agree, since keys are distinct. -/
theorem entry_unique {m : OrderedMap κ β} {k : κ} {v w : β}
    (hv : (k, v) ∈ m.entries) (hw : (k, w) ∈ m.entries)
    : v = w :=
  congrArg Prod.snd (List.inj_on_of_nodup_map m.nodup_keys hv hw rfl)

/-- A map is determined by its entries. -/
theorem eq_of_entries {m m' : OrderedMap κ β} (h : m.entries = m'.entries)
    : m = m' :=
  OrderedMap.mk.injEq .. |>.mpr h

variable [DecidableEq κ]

/-- A lookup succeeds exactly on the entries. The first entry found is the only one, by
distinctness of the keys.
-/
theorem get?_eq_some_iff {m : OrderedMap κ β} {k : κ} {v : β}
    : m.get? k = some v ↔ (k, v) ∈ m.entries := by
  constructor
  · intro h
    obtain ⟨e, he, rfl⟩ := Option.map_eq_some_iff.mp h
    have hk : e.1 = k := by simpa using List.find?_some he
    exact hk ▸ List.mem_of_find?_eq_some he
  · intro h
    have hk : (m.get? k).isSome := by
      rw [isSome_get?, contains_iff]
      exact mem_keys.mpr ⟨v, h⟩
    obtain ⟨w, hw⟩ := Option.isSome_iff_exists.mp hk
    obtain ⟨e, he, rfl⟩ := Option.map_eq_some_iff.mp hw
    have hek : e.1 = k := by simpa using List.find?_some he
    have hm : (k, e.2) ∈ m.entries := hek ▸ List.mem_of_find?_eq_some he
    rw [hw, entry_unique hm h]

/-- Maps with the same entries in any order have the same lookups. -/
theorem get?_congr {m m' : OrderedMap κ β} (h : ∀ e, e ∈ m'.entries ↔ e ∈ m.entries) (k : κ)
    : m'.get? k = m.get? k := by
  refine Option.ext fun v => ?_
  rw [get?_eq_some_iff, get?_eq_some_iff, h]

theorem get?_eq_none_iff {m : OrderedMap κ β} {k : κ}
    : m.get? k = none ↔ k ∉ m.keys := by
  rw [← contains_iff, ← isSome_get?]
  simp

theorem getD_of_mem {m : OrderedMap κ β} {k : κ} {v : β} (h : (k, v) ∈ m.entries) (w : β)
    : m.getD k w = v := by
  rw [getD, get?_eq_some_iff.mpr h, Option.getD_some]

theorem getD_of_notMem {m : OrderedMap κ β} {k : κ} (h : k ∉ m.keys) (w : β)
    : m.getD k w = w := by
  rw [getD, get?_eq_none_iff.mpr h, Option.getD_none]

theorem entry_getD {m : OrderedMap κ β} {k : κ} (h : k ∈ m.keys) (w : β)
    : (k, m.getD k w) ∈ m.entries := by
  obtain ⟨v, hv⟩ := mem_keys.mp h
  rwa [getD_of_mem hv]

/-- Writing sets the entry of its key and keeps those of all others. -/
theorem mem_entries_insert {m : OrderedMap κ β} {k k' : κ} {v v' : β}
    : (k', v') ∈ (m.insert k v).entries
      ↔ (k' = k ∧ v' = v) ∨ (k' ≠ k ∧ (k', v') ∈ m.entries) := by
  rw [← get?_eq_some_iff, get?_insert, ← get?_eq_some_iff]
  by_cases h : k = k'
  · simp [h, eq_comm]
  · simp [h, Ne.symm h]

theorem mem_keys_insert {m : OrderedMap κ β} {k k' : κ} {v : β}
    : k' ∈ (m.insert k v).keys ↔ k' = k ∨ k' ∈ m.keys := by
  rw [keys_insert]
  split <;> simp_all [or_comm]

theorem mem_entries_erase {m : OrderedMap κ β} {k k' : κ} {v : β}
    : (k', v) ∈ (m.erase k).entries ↔ k' ≠ k ∧ (k', v) ∈ m.entries := by
  simp [erase, and_comm]

theorem mem_keys_erase {m : OrderedMap κ β} {k k' : κ}
    : k' ∈ (m.erase k).keys ↔ k' ≠ k ∧ k' ∈ m.keys := by
  simp [keys_erase, and_comm]

/-- Writing an absent key appends its pair, by induction on the entries. -/
theorem insertEntry_of_notMem {k : κ} (v : β) {es : List (κ × β)}
    (h : k ∉ es.map Prod.fst)
    : insertEntry k v es = es ++ [(k, v)] := by
  induction es with
  | nil => rfl
  | cons e es ih =>
      simp only [List.map_cons, List.mem_cons, not_or] at h
      rw [insertEntry, if_neg (Ne.symm h.1), ih h.2, List.cons_append]

/-- Writing absent keys one after another appends their pairs, by induction on the pairs. -/
theorem entries_insertAll (m : OrderedMap κ β) (es : List (κ × β))
    (h : (m.keys ++ es.map Prod.fst).Nodup)
    : (m.insertAll es).entries = m.entries ++ es := by
  induction es generalizing m with
  | nil => simp [insertAll]
  | cons e es ih =>
      have hk : e.1 ∉ m.keys := by
        intro hm
        exact (List.nodup_append.mp h).2.2 e.1 hm e.1 (by simp) rfl
      have he : (m.insert e.1 e.2).entries = m.entries ++ [e] :=
        insertEntry_of_notMem e.2 hk
      have hn : ((m.insert e.1 e.2).keys ++ es.map Prod.fst).Nodup := by
        rw [keys_insert, if_neg hk]
        simpa using h
      have hs : m.insertAll (e :: es) = (m.insert e.1 e.2).insertAll es := rfl
      rw [hs, ih _ hn, he, List.append_assoc, List.singleton_append]

theorem entries_ofList {es : List (κ × β)} (h : (es.map Prod.fst).Nodup)
    : (ofList es).entries = es := by
  have he := entries_insertAll (empty : OrderedMap κ β) es (by simpa using h)
  rwa [show (empty : OrderedMap κ β).entries = [] from rfl, List.nil_append] at he

/-- Renaming keys in place keeps order and values, as long as no two keys become one. -/
theorem entries_mapKeys {m : OrderedMap κ β} {f : κ → κ} (h : (m.keys.map f).Nodup)
    : (m.mapKeys f).entries = m.entries.map fun e => (f e.1, e.2) := by
  apply entries_ofList
  simpa [keys, Function.comp_def] using h

-----------------------------------------------------------------------------------------
-- Writing and taking out while going through the entries
-----------------------------------------------------------------------------------------

/-- Writing to a present key changes its entry at its place. -/
theorem insertEntry_of_split {k : κ} {v : β} (w : β) {before after : List (κ × β)}
    (h : k ∉ before.map Prod.fst)
    : insertEntry k w (before ++ (k, v) :: after) = before ++ (k, w) :: after := by
  induction before with
  | nil => simp [insertEntry]
  | cons e before ih =>
      simp only [List.map_cons, List.mem_cons, not_or] at h
      rw [List.cons_append, insertEntry, if_neg (Ne.symm h.1), ih h.2, List.cons_append]

/-- Writing a value to the keys of entries, one after another, changes the values of those that pass
a test. By induction on the entries that are left, after those that have been gone through.
-/
theorem entries_foldl_insert (p : β → Prop) [DecidablePred p] (v : β) {m : OrderedMap κ β}
    {before after : List (κ × β)} (h : m.entries = before ++ after)
    : (after.foldl (fun m e => if p e.2 then m.insert e.1 v else m) m).entries
      = before ++ after.map fun e => (e.1, if p e.2 then v else e.2) := by
  induction after generalizing m before with
  | nil => rw [List.foldl_nil, h, List.map_nil]
  | cons e after ih =>
      have fresh : e.1 ∉ before.map Prod.fst := by
        have distinct := m.nodup_keys
        rw [h, List.map_append, List.map_cons, List.nodup_middle] at distinct
        intro he
        exact (List.nodup_cons.mp distinct).1 (List.mem_append_left _ he)
      have next : (if p e.2 then m.insert e.1 v else m).entries
          = (before ++ [(e.1, if p e.2 then v else e.2)]) ++ after := by
        rw [List.append_assoc, List.singleton_append]
        split
        · exact (congrArg (insertEntry e.1 v) h).trans (insertEntry_of_split v fresh)
        · exact h
      rw [List.foldl_cons, ih next, List.append_assoc, List.singleton_append, List.map_cons]

theorem foldl_insert_eq_mapValues (p : β → Prop) [DecidablePred p] (v : β) (m : OrderedMap κ β)
    : m.entries.foldl (fun m e => if p e.2 then m.insert e.1 v else m) m
      = m.mapValues fun _ w => if p w then v else w :=
  eq_of_entries (entries_foldl_insert p v (List.nil_append _).symm)

/-- Taking out keys of entries that pass a test leaves the entries with other keys, by induction on
the entries.
-/
theorem entries_foldl_erase (p : κ × β → Prop) [DecidablePred p] (m : OrderedMap κ β)
    (es : List (κ × β))
    : (es.foldl (fun m e => if p e then m.erase e.1 else m) m).entries
      = m.entries.filter fun e => ∀ e' ∈ es, p e' → e.1 ≠ e'.1 := by
  induction es generalizing m with
  | nil => simp
  | cons e es ih =>
      rw [List.foldl_cons, ih]
      by_cases he : p e
      · rw [if_pos he, erase, List.filter_filter]
        refine List.filter_congr fun e' _ => Bool.eq_iff_iff.mpr ?_
        rw [Bool.and_eq_true, decide_eq_true_iff, decide_eq_true_iff, decide_eq_true_iff,
          List.forall_mem_cons, and_comm]
        exact and_congr_left' (by simp [he])
      · rw [if_neg he]
        refine List.filter_congr fun e' _ => decide_eq_decide.mpr ?_
        rw [List.forall_mem_cons]
        exact (and_iff_right fun hp => absurd hp he).symm

theorem foldl_erase_eq_filter (p : κ × β → Prop) [DecidablePred p] (m : OrderedMap κ β)
    : m.entries.foldl (fun m e => if p e then m.erase e.1 else m) m
      = m.filter fun k v => decide (¬ p (k, v)) := by
  refine eq_of_entries ((entries_foldl_erase p m m.entries).trans ?_)
  refine List.filter_congr fun e he => decide_eq_decide.mpr ⟨fun h hp => h e he hp rfl, ?_⟩
  intro h e' he' hp hk
  have same : e = e' := Prod.ext hk (entry_unique he (hk ▸ he'))
  exact h (same ▸ hp)

/-- A key that is written and then taken out was taken out. -/
theorem erase_insert (m : OrderedMap κ β) (k : κ) (v : β)
    : (m.insert k v).erase k = m.erase k := by
  have entries (es : List (κ × β))
      : (insertEntry k v es).filter (fun e => decide (e.1 ≠ k))
        = es.filter fun e => decide (e.1 ≠ k) := by
    induction es with
    | nil => simp [insertEntry]
    | cons e es ih =>
        rw [insertEntry]
        split
        · rename_i he
          simp [he]
        · rw [List.filter_cons, List.filter_cons, ih]
  exact eq_of_entries (entries m.entries)

end SchemaMarkup.OrderedMap
