import SchemaMarkup.Proofs.Session.Effects

/-! The bookkeeping of a session stays coherent through every editing history: the display
order lists exactly the tables of the changes, new tables and extended tables are told apart by
the base, names that were given up are not in use, and the record of renames never has to be
followed twice.
-/

namespace SchemaMarkup

open OrderedMap

namespace Session

/-- A name is live if a base table has it now or the changes concern a table of that name. -/
theorem mem_liveNames {s : Session} {n : String}
    : n ∈ s.liveNames ↔ n ∈ s.baseNames ∨ ∃ kind, n ∈ (s.changes.entries kind).keys := by
  rw [liveNames, List.mem_append, Additions.mem_tableNames]

/-- A base name is the current name of some base table. -/
theorem mem_baseNames {s : Session} {n : String}
    : n ∈ s.baseNames ↔ ∃ b ∈ s.base.tableNames, s.renames.current b = n := by
  simp [baseNames]

/-- A name is free for a table if no table has it and only names of that table lead on from
it.
-/
theorem notMem_reservedNames {s : Session} {exempt : Option String} {n : String}
    : n ∉ s.reservedNames exempt
      ↔ n ∉ s.liveNames ∧ ∀ v, (n, v) ∈ s.renames.entries → some v = exempt := by
  simp only [reservedNames, List.mem_append, not_or, givenUpNames, List.mem_map,
    List.mem_filter, Prod.exists, decide_eq_true_eq, not_exists]
  refine and_congr_right fun _ => ⟨?_, ?_⟩
  · intro h v hv
    by_contra hne
    exact h n v ⟨⟨hv, hne⟩, rfl⟩
  · intro h k v hv
    obtain ⟨⟨hv, hne⟩, rfl⟩ := hv
    exact hne (h v hv)

/-- The lists and maps of a session fit together. -/
structure Coherent (s : Session) : Prop where
  /-- The display order lists the tables of the changes in their order. -/
  orderListsKeys : ∀ kind, s.order.names kind = (s.changes.entries kind).keys
  /-- No table is both new and extended. -/
  kindsDisjoint : ∀ n ∈ s.changes.newTables.keys, n ∉ s.changes.newFields.keys
  /-- A new table has no name of a base table. -/
  newTablesNotBase : ∀ n ∈ s.changes.newTables.keys, n ∉ s.baseNames
  /-- An extended table is one of the base. -/
  newFieldsOfBase : ∀ n ∈ s.changes.newFields.keys, n ∈ s.baseNames
  /-- A name that was given up is not in use. -/
  givenUpNotLive : ∀ n ∈ s.renames.keys, n ∉ s.liveNames
  /-- No name leads to itself. -/
  renamesProper : ∀ e ∈ s.renames.entries, e.1 ≠ e.2
  /-- No name leads to a name that leads on. -/
  renamesFlat : s.renames.Flat
  /-- Different base tables have different current names. -/
  currentInjective
    : ∀ a ∈ s.base.tableNames,
        ∀ b ∈ s.base.tableNames, s.renames.current a = s.renames.current b → a = b
  /-- Only tables of the changes are described. -/
  describedPending : ∀ n ∈ s.changes.descriptions.keys, n ∈ s.changes.tableNames
  /-- An extended table gains at least one field. -/
  newFieldsNonempty : ∀ e ∈ s.changes.newFields.entries, e.2 ≠ []

/-- No table has additions of both kinds. -/
theorem Coherent.kind_unique {s : Session} (h : s.Coherent) {n : String}
    {kind kind' : AdditionKind} (hk : n ∈ (s.changes.entries kind).keys)
    (hk' : n ∈ (s.changes.entries kind').keys)
    : kind = kind' := by
  cases kind <;> cases kind'
  · rfl
  · exact absurd hk' (h.kindsDisjoint n hk)
  · exact absurd hk (h.kindsDisjoint n hk')
  · rfl

/-- A session without changes and renames is coherent. -/
theorem coherent_settled (base proposal : Schema)
    : ({ base, proposal } : Session).Coherent where
  orderListsKeys kind := by cases kind <;> rfl
  kindsDisjoint n hn := absurd hn List.not_mem_nil
  newTablesNotBase n hn := absurd hn List.not_mem_nil
  newFieldsOfBase n hn := absurd hn List.not_mem_nil
  givenUpNotLive n hn := absurd hn List.not_mem_nil
  renamesProper e he := absurd he List.not_mem_nil
  renamesFlat n hn := absurd hn List.not_mem_nil
  currentInjective a _ b _ h := by
    rwa [Renames.current_of_notMem List.not_mem_nil,
      Renames.current_of_notMem List.not_mem_nil] at h
  describedPending n hn := absurd hn List.not_mem_nil
  newFieldsNonempty e he := absurd he List.not_mem_nil

/-- The base names of a session without renames are the names of its base tables. -/
theorem mem_baseNames_start {base proposal : Schema} {n : String}
    : n ∈ (start base proposal).baseNames ↔ n ∈ base.tableNames := by
  rw [mem_baseNames]
  constructor
  · intro h
    obtain ⟨b, hb, hn⟩ := h
    rw [Renames.current_of_notMem List.not_mem_nil] at hn
    exact hn ▸ hb
  · exact fun h => ⟨n, h, Renames.current_of_notMem List.not_mem_nil⟩

/-- An opened session is coherent: a table is new if the base lacks it and extended otherwise,
and each table adds something in one way.
-/
theorem coherent_start (base proposal : Schema)
    : (start base proposal).Coherent := by
  have new {n : String} (h : n ∈ (Additions.between base proposal).newTables.keys)
      : n ∉ base.tableNames := by
    obtain ⟨fields, h⟩ := mem_keys.mp h
    obtain ⟨t, _, rfl, ha⟩ := Additions.mem_entries_additionsTo.mp h
    exact Additions.addition?_newTables ha
  have extended {n : String} {fields : List Field}
      (h : (n, fields) ∈ (Additions.between base proposal).newFields.entries)
      : n ∈ base.tableNames ∧ fields ≠ [] := by
    obtain ⟨t, _, rfl, ha⟩ := Additions.mem_entries_additionsTo.mp h
    exact Additions.addition?_newFields ha
  refine { coherent_settled base proposal with
    orderListsKeys := ?_
    kindsDisjoint := ?_
    newTablesNotBase := ?_
    newFieldsOfBase := ?_
    givenUpNotLive := fun n hn => absurd hn List.not_mem_nil
    describedPending := ?_
    newFieldsNonempty := fun e he => (extended he).2 }
  · intro kind
    cases kind <;> rfl
  · intro n hn hf
    obtain ⟨fields, hf⟩ := mem_keys.mp hf
    exact new hn (extended hf).1
  · intro n hn hb
    exact new hn (mem_baseNames_start.mp hb)
  · intro n hn
    obtain ⟨fields, hf⟩ := mem_keys.mp hn
    exact mem_baseNames_start.mpr (extended hf).1
  · intro n hn
    obtain ⟨t, ht, rfl, ha⟩ := Additions.mem_keys_additionNotes hn
    obtain ⟨⟨kind, fields⟩, ha⟩ := Option.isSome_iff_exists.mp ha
    have he := Additions.mem_entries_additionsTo.mpr ⟨t, ht, rfl, ha⟩
    refine Additions.mem_tableNames.mpr ⟨kind, mem_keys.mpr ⟨fields, ?_⟩⟩
    cases kind <;> exact he

end Session
end SchemaMarkup
