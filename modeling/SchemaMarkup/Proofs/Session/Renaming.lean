import SchemaMarkup.Proofs.OrderedMap
import SchemaMarkup.Session.Edit

/-! The record of renames. Recording that a table was renamed sends every name that led to its
old name on to the new one, so the record never needs to be followed twice.
-/

namespace SchemaMarkup

open OrderedMap

/-- No name of the record leads to a name that leads on. -/
def Renames.Flat (m : Renames) : Prop :=
  ∀ n ∈ m.values, n ∉ m.keys

theorem Renames.current_of_notMem {m : Renames} {n : String} (h : n ∉ m.keys)
    : m.current n = n :=
  getD_of_notMem h n

/-- A name with an entry stands for the name it leads to. -/
theorem Renames.current_of_mem {m : Renames} {n v : String} (h : (n, v) ∈ m.entries)
    : m.current n = v :=
  getD_of_mem h n

theorem Renames.current_eq_or_mem_values (m : Renames) (n : String)
    : m.current n = n ∨ m.current n ∈ m.values := by
  by_cases h : n ∈ m.keys
  · exact .inr (mem_values.mpr ⟨n, entry_getD h n⟩)
  · exact .inl (current_of_notMem h)

theorem Renames.Flat.ne {m : Renames} (h : m.Flat) {k v : String} (he : (k, v) ∈ m.entries)
    : k ≠ v := by
  intro he
  subst he
  exact h k (mem_values.mpr ⟨k, he⟩) (mem_keys.mpr ⟨k, he⟩)

namespace Session

/-- The entries after a rename: the old name leads to the new one, and all other entries
lead where they did, unless that was the old name; what then leads to itself is left out.
-/
theorem mem_entries_recordRename {m : Renames} {old new k v : String}
    : (k, v) ∈ (recordRename m old new).entries
      ↔ k ≠ v ∧ ((k = old ∧ v = new)
        ∨ (k ≠ old ∧ ∃ w, (k, w) ∈ m.entries ∧ v = if w = old then new else w)) := by
  have hm : (k, v) ∈ (recordRename m old new).entries
      ↔ (k, v) ∈ ((m.mapValues fun _ c => if c = old then new else c).insert old new).entries
        ∧ k ≠ v := by
    simp [recordRename, filter]
  have hv : (k, v) ∈ (m.mapValues fun _ c => if c = old then new else c).entries
      ↔ ∃ w, (k, w) ∈ m.entries ∧ v = if w = old then new else w := by
    simp only [mapValues, List.mem_map, Prod.mk.injEq]
    constructor
    · intro h
      obtain ⟨⟨k', w⟩, he, rfl, rfl⟩ := h
      exact ⟨w, he, rfl⟩
    · intro h
      obtain ⟨w, he, rfl⟩ := h
      exact ⟨(k, w), he, rfl, rfl⟩
  rw [hm, mem_entries_insert, hv]
  exact and_comm

/-- Only the old name and names that led on before can lead on after a rename. -/
theorem mem_keys_of_mem_keys_recordRename {m : Renames} {old new k : String}
    (h : k ∈ (recordRename m old new).keys)
    : k = old ∨ k ∈ m.keys := by
  obtain ⟨v, hv⟩ := mem_keys.mp h
  rcases (mem_entries_recordRename.mp hv).2 with ⟨rfl, _⟩ | ⟨_, w, hw, _⟩
  · exact .inl rfl
  · exact .inr (mem_keys.mpr ⟨w, hw⟩)

/-- Names lead to the new name after a rename or to names other than the old one to which
they led before.
-/
theorem mem_values_of_mem_values_recordRename {m : Renames} {old new v : String}
    (h : v ∈ (recordRename m old new).values)
    : v = new ∨ (v ≠ old ∧ v ∈ m.values) := by
  obtain ⟨k, hk⟩ := mem_values.mp h
  rcases (mem_entries_recordRename.mp hk).2 with ⟨_, rfl⟩ | ⟨_, w, hw, rfl⟩
  · exact .inl rfl
  · by_cases ho : w = old
    · exact .inl (if_pos ho)
    · rw [if_neg ho]
      exact .inr ⟨ho, mem_values.mpr ⟨k, hw⟩⟩

/-- The new name does not lead on after a rename, provided that it did not lead anywhere but
to the old name before.
-/
theorem new_notMem_keys_recordRename {m : Renames} {old new : String} (hne : new ≠ old)
    (hfree : ∀ v, (new, v) ∈ m.entries → v = old)
    : new ∉ (recordRename m old new).keys := by
  intro h
  obtain ⟨v, hv⟩ := mem_keys.mp h
  obtain ⟨hv', he⟩ := mem_entries_recordRename.mp hv
  rcases he with ⟨he, _⟩ | ⟨_, w, hw, rfl⟩
  · exact hne he
  · rw [hfree w hw, if_pos rfl] at hv'
    exact hv' rfl

/-- After a rename of a name that does not lead on, exactly the tables that had the old name
have the new one, and all others keep theirs.
-/
theorem current_recordRename {m : Renames} {old : String} (new : String)
    (h : old ∉ m.keys) (n : String)
    : (recordRename m old new).current n
      = if m.current n = old then new else m.current n := by
  -- The name that the renamed record would hold, were it not left out for leading to itself.
  have key (w : String) (hw : (n = old ∧ w = new)
      ∨ (n ≠ old ∧ ∃ u, (n, u) ∈ m.entries ∧ w = if u = old then new else u))
      : (recordRename m old new).current n = w := by
    by_cases hnw : n = w
    · have hn : n ∉ (recordRename m old new).keys := by
        intro hk
        obtain ⟨v, hv⟩ := mem_keys.mp hk
        obtain ⟨hv', he⟩ := mem_entries_recordRename.mp hv
        rcases he with ⟨ho, rfl⟩ | ⟨ho, u, hu, rfl⟩ <;>
          rcases hw with ⟨hwo, rfl⟩ | ⟨hwo, u', hu', rfl⟩
        · exact hv' hnw
        · exact hwo ho
        · exact ho hwo
        · rw [entry_unique hu hu'] at hv'
          exact hv' hnw
      rw [Renames.current_of_notMem hn, hnw]
    · exact Renames.current_of_mem (mem_entries_recordRename.mpr ⟨hnw, hw⟩)
  by_cases hn : n = old
  · subst hn
    rw [Renames.current_of_notMem h, if_pos rfl]
    exact key new (.inl ⟨rfl, rfl⟩)
  · by_cases hk : n ∈ m.keys
    · have he := entry_getD hk n
      exact key _ (.inr ⟨hn, _, he, rfl⟩)
    · have hk' : n ∉ (recordRename m old new).keys := by
        intro h'
        rcases mem_keys_of_mem_keys_recordRename h' with h' | h'
        · exact hn h'
        · exact hk h'
      rw [Renames.current_of_notMem hk', Renames.current_of_notMem hk, if_neg hn]

/-- Recording a rename to a free name keeps the record flat. -/
theorem flat_recordRename {m : Renames} {old new : String} (hflat : m.Flat) (hne : new ≠ old)
    (hfree : ∀ v, (new, v) ∈ m.entries → v = old)
    : (recordRename m old new).Flat := by
  intro v hv hk
  rcases mem_values_of_mem_values_recordRename hv with rfl | ⟨ho, hv⟩
  · exact new_notMem_keys_recordRename hne hfree hk
  · rcases mem_keys_of_mem_keys_recordRename hk with hk | hk
    · exact ho hk
    · exact hflat v hv hk

end Session
end SchemaMarkup
