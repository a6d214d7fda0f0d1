import SchemaMarkup.Merge.Drafts
import SchemaMarkup.Proofs.Additions.Difference

/-! The drafts of a merge by their names. The tables that changes create, those that they extend
and those kept from the base never meet under one name, and the names that are emitted follow
from the names in the request alone.
-/

namespace SchemaMarkup

open Text

/-- A given order of names leaves out none and adds none. -/
theorem mem_listedFirst {names order : List String} {n : String}
    : n ∈ listedFirst names order ↔ n ∈ names := by
  simp only [listedFirst, List.mem_append, List.mem_filter, List.mem_eraseDups,
    decide_eq_true_eq]
  constructor
  · intro h
    rcases h with ⟨_, h⟩ | ⟨h, _⟩
    · exact h
    · exact h
  · intro h
    by_cases ho : n ∈ order
    · exact .inl ⟨ho, h⟩
    · exact .inr ⟨h, fun hl => ho hl.1⟩

/-- A given order of distinct names repeats none, since the others are told from those listed. -/
theorem nodup_listedFirst {names : List String} (h : names.Nodup) (order : List String)
    : (listedFirst names order).Nodup := by
  refine List.nodup_append.mpr ⟨?_, h.filter _, ?_⟩
  · exact (nodup_eraseDups order).filter _
  · intro a ha b hb he
    subst he
    have hn : a ∉ order.eraseDups.filter fun n => decide (n ∈ names) := by
      simpa only [decide_eq_true_eq] using (List.mem_filter.mp hb).2
    exact hn ha

/-- Renaming tables keeps the names of fields. -/
@[simp]
theorem Field.name_rename (m : Renames) (f : Field)
    : (f.rename m).name = f.name :=
  rfl

theorem mem_names_distinctFields {fields : List Field} {n : String}
    : n ∈ (distinctFields fields).map Field.name ↔ n ∈ fields.map Field.name :=
  mem_map_distinctBy_nil

theorem nodup_names_distinctFields (fields : List Field)
    : ((distinctFields fields).map Field.name).Nodup :=
  nodup_keys_distinctBy Field.name [] fields

namespace MergeRequest

variable {r : MergeRequest}

theorem mem_names_writable {fields : List Field} {n : String}
    : n ∈ (r.writable fields).map Field.name
      ↔ ∃ f ∈ fields, f.isIncomplete = false ∧ f.name = n := by
  simp [writable, and_assoc]

theorem named_of_mem_writable {fields : List Field} {n : String}
    (h : n ∈ (r.writable fields).map Field.name)
    : isBlankText n = false := by
  obtain ⟨f, _, hf, rfl⟩ := mem_names_writable.mp h
  exact (Bool.or_eq_false_iff.mp hf).1

theorem writable_eq_nil_iff {fields : List Field}
    : r.writable fields = [] ↔ ∀ f ∈ fields, f.isIncomplete = true := by
  simp [writable]

-----------------------------------------------------------------------------------------
-- What a request says about a name
-----------------------------------------------------------------------------------------

/-- Whether the changes create a table: it has a name and a complete field. -/
def Creates (r : MergeRequest) (name : String) : Prop :=
  isBlankText name = false
    ∧ ∃ f ∈ r.changes.newTables.getD name [], f.isIncomplete = false

/-- Whether the changes add fields to a table that has a name. -/
def Extends (r : MergeRequest) (name : String) : Prop :=
  isBlankText name = false ∧ name ∈ r.changes.newFields.keys

/-- Whether a base table of a name is kept: its current name is not among the changes, and no
other table has taken its name while it has not been renamed itself.
-/
def Keeps (r : MergeRequest) (name : String) : Prop :=
  r.renames.current name ∉ r.changes.tableNames
    ∧ (name ∈ r.renames.values → name ∈ r.renames.keys)

/-- The names of the fields that the changes add to a table. -/
def addedNames (r : MergeRequest) (name : String) : List String :=
  (r.changes.newFields.getD name []).map Field.name

/-- A created table is listed among the new tables. -/
theorem Creates.mem_keys {name : String} (h : r.Creates name)
    : name ∈ r.changes.newTables.keys := by
  by_contra hn
  obtain ⟨f, hf, _⟩ := h.2
  rw [OrderedMap.getD_of_notMem hn] at hf
  cases hf

theorem Creates.mem_tableNames {name : String} (h : r.Creates name)
    : name ∈ r.changes.tableNames :=
  Additions.mem_tableNames.mpr ⟨.newTables, h.mem_keys⟩

theorem Extends.mem_tableNames {name : String} (h : r.Extends name)
    : name ∈ r.changes.tableNames :=
  Additions.mem_tableNames.mpr ⟨.newFields, h.2⟩

/-- A table that is not among the changes has no added field. -/
theorem addedNames_eq_nil {name : String} (h : name ∉ r.changes.tableNames)
    : r.addedNames name = [] := by
  have hn : name ∉ r.changes.newFields.keys := fun hk =>
    h (Additions.mem_tableNames.mpr ⟨.newFields, hk⟩)
  rw [addedNames, OrderedMap.getD_of_notMem hn, List.map_nil]

/-- A draft that comes from the changes. -/
structure Changed (r : MergeRequest) (d : Draft) : Prop where
  /-- The draft is that of a table that the changes create or extend. -/
  ofChanges : r.Creates d.name ∨ r.Extends d.name
  /-- Some fields are to be settled. -/
  isPending : d.pending.isSome
  /-- No field name occurs twice. -/
  distinct : d.table.fieldNames.Nodup
  /-- Every field has a name. -/
  named : ∀ n ∈ d.table.fieldNames, isBlankText n = false
  /-- All fields of a created table are to be settled, and the added fields of any table. -/
  settles : ∀ n ∈ d.table.fieldNames,
    r.Creates d.name ∨ n ∈ r.addedNames d.name → n ∈ d.pending.getD []

/-- A draft that is a base table under its current name. -/
structure Kept (r : MergeRequest) (d : Draft) : Prop where
  /-- The draft stands for a base table that is kept. -/
  ofBase : ∃ n ∈ r.base.tableNames, r.Keeps n ∧ r.renames.current n = d.name
  /-- Nothing is to be settled. -/
  notPending : d.pending = none

theorem Changed.mem_tableNames {d : Draft} (h : r.Changed d)
    : d.name ∈ r.changes.tableNames :=
  h.ofChanges.elim Creates.mem_tableNames Extends.mem_tableNames

/-- A kept draft is not named among the changes. -/
theorem Kept.notMem_tableNames {d : Draft} (h : r.Kept d)
    : d.name ∉ r.changes.tableNames := by
  obtain ⟨n, _, hk, he⟩ := h.ofBase
  exact he ▸ hk.1

-----------------------------------------------------------------------------------------
-- Created tables
-----------------------------------------------------------------------------------------

/-- A draft is made for exactly the tables that the changes create. -/
theorem createdDraft?_eq_none_iff {name : String}
    : r.createdDraft? name = none ↔ ¬ r.Creates name := by
  rw [createdDraft?, Creates]
  cases hb : isBlankText name with
  | true => simp
  | false =>
      cases hw : r.writable (r.changes.newTables.getD name []) with
      | nil => simpa using writable_eq_nil_iff.mp hw
      | cons f fs =>
          have hn : ¬ ∀ f ∈ r.changes.newTables.getD name [], f.isIncomplete = true := by
            rw [← writable_eq_nil_iff (r := r), hw]
            exact List.cons_ne_nil f fs
          simpa using hn

/-- A created draft carries the name it is made for, and settles all its fields. -/
theorem changed_of_createdDraft? {name : String} {d : Draft} (h : r.createdDraft? name = some d)
    : d.name = name ∧ r.Changed d := by
  have hc : r.Creates name := by
    by_contra hn
    rw [createdDraft?_eq_none_iff.mpr hn] at h
    cases h
  rw [createdDraft?, if_neg (by simp [hc.1])] at h
  cases hw : r.writable (r.changes.newTables.getD name []) with
  | nil => simp [hw] at h
  | cons f fs =>
      simp only [hw, Option.some.injEq] at h
      subst h
      have hm : ∀ n ∈ (distinctFields (f :: fs)).map Field.name,
          n ∈ (r.writable (r.changes.newTables.getD name [])).map Field.name := by
        rw [hw]
        exact fun n hn => mem_names_distinctFields.mp hn
      refine ⟨rfl, .inl hc, rfl, nodup_names_distinctFields _, ?_, ?_⟩
      · exact fun n hn => named_of_mem_writable (hm n hn)
      · exact fun n hn _ => mem_names_distinctFields.mp hn

/-- The created drafts are those of the created tables. -/
theorem mem_names_createdDrafts {n : String}
    : n ∈ r.createdDrafts.map Draft.name ↔ r.Creates n := by
  constructor
  · intro h
    obtain ⟨d, hd, rfl⟩ := List.mem_map.mp h
    obtain ⟨name, _, hd⟩ := List.mem_filterMap.mp hd
    rw [(changed_of_createdDraft? hd).1]
    by_contra hn
    rw [createdDraft?_eq_none_iff.mpr hn] at hd
    cases hd
  · intro h
    obtain ⟨d, hd⟩ : ∃ d, r.createdDraft? n = some d := by
      by_contra hn
      refine createdDraft?_eq_none_iff.mp (Option.eq_none_iff_forall_not_mem.mpr ?_) h
      exact fun d hd => hn ⟨d, hd⟩
    refine List.mem_map.mpr ⟨d, ?_, (changed_of_createdDraft? hd).1⟩
    exact List.mem_filterMap.mpr ⟨n, mem_listedFirst.mpr h.mem_keys, hd⟩

/-- The created drafts have distinct names, those of the new tables in some order. -/
theorem nodup_names_createdDrafts
    : (r.createdDrafts.map Draft.name).Nodup := by
  have hs : (r.createdDrafts.map Draft.name).Sublist
      ((listedFirst r.changes.newTables.keys r.order.newTables).map id) :=
    map_filterMap_sublist (fun name d hd => (changed_of_createdDraft? hd).1) _
  rw [List.map_id] at hs
  exact (nodup_listedFirst r.changes.newTables.nodup _).sublist hs

-----------------------------------------------------------------------------------------
-- Extended tables
-----------------------------------------------------------------------------------------

/-- An extended draft settles the fields that are added to its table. -/
theorem changed_extendedDraft {name : String} (h : r.Extends name) (hc : ¬ r.Creates name)
    : r.Changed (r.extendedDraft name) := by
  refine ⟨.inr h, rfl, nodup_names_distinctFields _, ?_, ?_⟩
  · intro n hn
    have hw := mem_names_distinctFields.mp hn
    rw [List.map_append] at hw
    exact (List.mem_append.mp hw).elim named_of_mem_writable named_of_mem_writable
  · intro n _ h
    rcases h with hcr | ha
    · exact absurd hcr hc
    · exact ha

/-- The extended drafts are those of the extended tables that are not created already. -/
theorem mem_extendedDrafts {d : Draft}
    : d ∈ r.extendedDrafts r.createdDrafts
      ↔ ∃ n, r.Extends n ∧ ¬ r.Creates n ∧ d = r.extendedDraft n := by
  rw [extendedDrafts, List.mem_map]
  simp only [List.mem_filter, mem_listedFirst, mem_names_createdDrafts, Bool.and_eq_true,
    Bool.not_eq_true', decide_eq_true_eq]
  constructor
  · intro h
    obtain ⟨n, ⟨hk, hb, hc⟩, rfl⟩ := h
    exact ⟨n, ⟨hb, hk⟩, hc, rfl⟩
  · intro h
    obtain ⟨n, ⟨hb, hk⟩, hc, rfl⟩ := h
    exact ⟨n, ⟨hk, hb, hc⟩, rfl⟩

/-- The extended drafts have distinct names, those of the extended tables in some order. -/
theorem nodup_names_extendedDrafts
    : ((r.extendedDrafts r.createdDrafts).map Draft.name).Nodup := by
  have hn : Draft.name ∘ r.extendedDraft = id := rfl
  rw [extendedDrafts, List.map_map, hn, List.map_id]
  exact (nodup_listedFirst r.changes.newFields.nodup _).filter _

-----------------------------------------------------------------------------------------
-- Kept tables
-----------------------------------------------------------------------------------------

/-- A base table makes a draft under its current name if it is kept. -/
theorem keptDraft?_eq_some_iff {t : Table} {d : Draft}
    : r.keptDraft? t = some d
      ↔ r.Keeps t.name
        ∧ d = { table :=
          { t with
            name := r.renames.current t.name
            fields := t.fields.map (Field.rename r.renames) } } := by
  simp only [keptDraft?, Keeps]
  split
  · rename_i hm
    simp [hm]
  · rename_i hm
    split
    · rename_i hv
      simp [hm, hv.1, hv.2]
    · rename_i hv
      have hk : t.name ∈ r.renames.values → t.name ∈ r.renames.keys := by
        intro h
        by_contra hk
        exact hv ⟨h, hk⟩
      rw [Option.some.injEq, eq_comm]
      exact ⟨fun h => ⟨⟨hm, hk⟩, h⟩, fun h => h.2⟩

/-- The drafts that come from the changes are those of created and extended tables. -/
theorem changed_of_mem {d : Draft}
    (h : d ∈ r.createdDrafts ++ r.extendedDrafts r.createdDrafts)
    : r.Changed d := by
  rcases List.mem_append.mp h with h | h
  · obtain ⟨n, _, hd⟩ := List.mem_filterMap.mp h
    exact (changed_of_createdDraft? hd).2
  · obtain ⟨n, he, hc, rfl⟩ := mem_extendedDrafts.mp h
    exact changed_extendedDraft he hc

/-- The other drafts are base tables that are kept. -/
theorem kept_of_mem {before : List Draft} {d : Draft} (h : d ∈ r.keptDrafts before)
    : r.Kept d := by
  obtain ⟨t, ht, hd⟩ := List.mem_filterMap.mp (mem_of_mem_distinctBy h)
  obtain ⟨hk, rfl⟩ := keptDraft?_eq_some_iff.mp hd
  exact ⟨⟨t.name, List.mem_map_of_mem (mem_of_mem_distinctBy ht), hk, rfl⟩, rfl⟩

/-- Beside the drafts that come from the changes, every base table that is kept has one under
its current name.
-/
theorem mem_names_keptDrafts {n : String}
    : n ∈ (r.keptDrafts (r.createdDrafts ++ r.extendedDrafts r.createdDrafts)).map Draft.name
      ↔ ∃ b ∈ r.base.tableNames, r.Keeps b ∧ r.renames.current b = n := by
  constructor
  · intro h
    obtain ⟨d, hd, rfl⟩ := List.mem_map.mp h
    exact (kept_of_mem hd).ofBase
  · intro h
    obtain ⟨b, hb, hk, rfl⟩ := h
    rw [keptDrafts, mem_map_distinctBy]
    constructor
    · intro hm
      obtain ⟨d, hd, he⟩ := List.mem_map.mp hm
      exact hk.1 (he ▸ (changed_of_mem hd).mem_tableNames)
    · have hb' : b ∈ r.base.distinctTables.map Table.name := mem_map_distinctBy_nil.mpr hb
      obtain ⟨t, ht, rfl⟩ := List.mem_map.mp hb'
      have hd := keptDraft?_eq_some_iff.mpr ⟨hk, rfl⟩
      exact List.mem_map.mpr ⟨_, List.mem_filterMap.mpr ⟨t, ht, hd⟩, rfl⟩

/-- Every draft comes from the changes or is a base table that is kept. -/
theorem changed_or_kept {d : Draft} (h : d ∈ r.drafts)
    : r.Changed d ∨ r.Kept d := by
  rcases List.mem_append.mp h with h | h
  · exact .inl (changed_of_mem h)
  · exact .inr (kept_of_mem h)

/-- A name is emitted if the changes create or extend its table, or if it is the current name
of a base table that is kept.
-/
theorem mem_names_drafts {n : String}
    : n ∈ r.drafts.map Draft.name
      ↔ r.Creates n ∨ r.Extends n
        ∨ ∃ b ∈ r.base.tableNames, r.Keeps b ∧ r.renames.current b = n := by
  rw [drafts, List.map_append, List.mem_append, mem_names_keptDrafts, List.map_append,
    List.mem_append, mem_names_createdDrafts, or_assoc]
  by_cases hc : r.Creates n
  · simp [hc]
  · have he : n ∈ (r.extendedDrafts r.createdDrafts).map Draft.name ↔ r.Extends n := by
      constructor
      · intro h
        obtain ⟨d, hd, rfl⟩ := List.mem_map.mp h
        obtain ⟨b, hb, _, rfl⟩ := mem_extendedDrafts.mp hd
        exact hb
      · intro h
        exact List.mem_map.mpr ⟨_, mem_extendedDrafts.mpr ⟨n, h, hc, rfl⟩, rfl⟩
    rw [he]

/-- No two drafts have one name. Created and extended tables are told apart when the latter are
collected, and kept tables are not among the changes.
-/
theorem nodup_names_drafts (r : MergeRequest)
    : (r.drafts.map Draft.name).Nodup := by
  rw [drafts, List.map_append, List.nodup_append]
  refine ⟨?_, nodup_keys_distinctBy Draft.name _ _, ?_⟩
  · rw [List.map_append, List.nodup_append]
    refine ⟨nodup_names_createdDrafts, nodup_names_extendedDrafts, ?_⟩
    intro a ha b hb he
    subst he
    obtain ⟨d, hd, rfl⟩ := List.mem_map.mp hb
    obtain ⟨n, _, hc, rfl⟩ := mem_extendedDrafts.mp hd
    exact hc (mem_names_createdDrafts.mp ha)
  · intro a ha b hb he
    subst he
    obtain ⟨d, hd, rfl⟩ := List.mem_map.mp ha
    obtain ⟨e, he, hn⟩ := List.mem_map.mp hb
    exact (kept_of_mem he).notMem_tableNames (hn ▸ (changed_of_mem hd).mem_tableNames)

end MergeRequest
end SchemaMarkup
