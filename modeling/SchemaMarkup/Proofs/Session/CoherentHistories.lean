import SchemaMarkup.Proofs.Session.Coherence

/-! Coherence through editing histories. A rename acts on every list of names of a session as
one substitution of a free name for a live one, and substitutions of this kind keep apart what
was apart; the other edits touch one table at a time.
-/

namespace SchemaMarkup

open OrderedMap

namespace Session

-----------------------------------------------------------------------------------------
-- A rename as a substitution on all names
-----------------------------------------------------------------------------------------

/-- The name that a table has after a rename. -/
abbrev afterRename (old new n : String) : String :=
  if n = old then new else n

/-- Renaming to a name that does not occur keeps names apart. -/
theorem afterRename_injOn {old new a b : String} (ha : a ≠ new) (hb : b ≠ new)
    (h : afterRename old new a = afterRename old new b)
    : a = b := by
  by_cases hao : a = old <;> by_cases hbo : b = old <;> simp only [afterRename, hao, hbo,
    if_true, if_false] at h
  · rw [hao, hbo]
  · exact absurd h.symm hb
  · exact absurd h ha
  · exact h

/-- A session in which a live table has been renamed to a free name, and nothing else. -/
structure Renamed (s s' : Session) (old new : String) : Prop where
  base : s'.base = s.base
  proposal : s'.proposal = s.proposal
  renames : s'.renames = recordRename s.renames old new
  entries
    : ∀ kind,
        (s'.changes.entries kind).entries
        = (s.changes.entries kind).entries.map fun e => (afterRename old new e.1, e.2)
  order : ∀ kind, s'.order.names kind = (s.order.names kind).map (afterRename old new)
  descriptions
    : s'.changes.descriptions = renamedDescriptions s.changes.descriptions old new
  live : old ∈ s.liveNames
  proper : new ≠ old
  visible : Text.isBlankText new = false
  free : new ∉ s.liveNames
  released : ∀ v, (new, v) ∈ s.renames.entries → v = old

/-- Renaming an entry of the changes substitutes the new name in both kinds of additions: in
one as the key is replaced, in the other as the old name does not occur.
-/
theorem Coherent.entries_withRenamedEntry {s : Session} (h : s.Coherent)
    {kind : AdditionKind} {old new : String} (present : old ∈ (s.changes.entries kind).keys)
    (free : new ∉ s.liveNames) (kind' : AdditionKind)
    : ((s.withRenamedEntry kind old new).changes.entries kind').entries
      = (s.changes.entries kind').entries.map fun e => (afterRename old new e.1, e.2) := by
  have apart {n : String} (hn : n ∈ (s.changes.entries kind').keys) : n ≠ new := by
    intro he
    subst he
    exact free (mem_liveNames.mpr (.inr ⟨kind', hn⟩))
  rw [withRenamedEntry, Additions.entries_withEntries]
  by_cases hk : kind = kind'
  · subst hk
    rw [if_pos rfl, entries_mapKeys]
    apply List.Nodup.map_on _ (s.changes.entries kind).nodup
    intro a ha b hb
    exact afterRename_injOn (apart ha) (apart hb)
  · rw [if_neg hk]
    refine ((List.map_congr_left ?_).trans (List.map_id _)).symm
    intro e he
    have hne : e.1 ≠ old := by
      intro he
      subst he
      exact hk (h.kind_unique present (mem_keys.mpr ⟨e.2, he⟩))
    simp [afterRename, hne]

/-- Renaming an entry of the changes substitutes the new name in the display order. -/
theorem Coherent.order_withRenamedEntry {s : Session} (h : s.Coherent)
    {kind : AdditionKind} {old new : String} (present : old ∈ (s.changes.entries kind).keys)
    (kind' : AdditionKind)
    : (s.withRenamedEntry kind old new).order.names kind'
      = (s.order.names kind').map (afterRename old new) := by
  have listed : old ∈ s.order.names kind := h.orderListsKeys kind ▸ present
  have nonempty : (s.order.names kind).isEmpty = false := by
    rw [List.isEmpty_eq_false_iff]
    exact List.ne_nil_of_mem listed
  have present' : new ∈ (s.order.names kind).map (afterRename old new) :=
    List.mem_map.mpr ⟨old, listed, if_pos rfl⟩
  have renamed (keys : List String)
      : renamedOrder (s.order.names kind) keys old new
        = (s.order.names kind).map (afterRename old new) := by
    simp only [renamedOrder, nonempty, Bool.false_eq_true, if_false]
    exact if_pos present'
  rw [withRenamedEntry, DisplayOrder.names_withNames]
  by_cases hk : kind = kind'
  · subst hk
    rw [if_pos rfl, renamed]
  · rw [if_neg hk]
    refine ((List.map_congr_left ?_).trans (List.map_id _)).symm
    intro n hn
    have hne : n ≠ old := by
      intro he
      subst he
      exact hk (h.kind_unique present (h.orderListsKeys kind' ▸ hn))
    simp [afterRename, hne]

/-- Renaming a table of the changes is a substitution. -/
theorem Coherent.renamed_entry {s : Session} (h : s.Coherent) {kind : AdditionKind}
    {old new : String} (present : old ∈ (s.changes.entries kind).keys) (proper : new ≠ old)
    (visible : Text.isBlankText new = false) (free : new ∉ s.reservedNames (some old))
    : s.Renamed ((s.withRenamedEntry kind old new).withRename old new) old new := by
  obtain ⟨free, released⟩ := notMem_reservedNames.mp free
  exact {
    base := rfl
    proposal := rfl
    renames := rfl
    entries := fun kind' => by
      rw [← h.entries_withRenamedEntry present free kind']
      cases kind' <;> rfl
    order := h.order_withRenamedEntry present
    descriptions := by cases kind <;> rfl
    live := mem_liveNames.mpr (.inr ⟨kind, present⟩)
    proper
    visible
    free
    released := fun v hv => Option.some.inj (released v hv)
  }

/-- Renaming a table of the base alone is a substitution, which the changes do not show. -/
theorem Coherent.renamed_base {s : Session} (h : s.Coherent) {old new : String}
    (absent : old ∉ s.changes.tableNames) (present : old ∈ s.baseNames) (proper : new ≠ old)
    (visible : Text.isBlankText new = false) (free : new ∉ s.reservedNames (some old))
    : s.Renamed (s.withRename old new) old new := by
  obtain ⟨free, released⟩ := notMem_reservedNames.mp free
  have unlisted {kind : AdditionKind} {n : String} (hn : n ∈ (s.changes.entries kind).keys)
      : n ≠ old := by
    intro he
    subst he
    exact absent (Additions.mem_tableNames.mpr ⟨kind, hn⟩)
  exact {
    base := rfl
    proposal := rfl
    renames := rfl
    entries := fun kind => by
      refine Eq.trans ?_ ((List.map_congr_left ?_).trans (List.map_id _)).symm
      · cases kind <;> rfl
      · intro e he
        simp [afterRename, unlisted (mem_keys.mpr ⟨e.2, he⟩)]
    order := fun kind => by
      refine ((List.map_congr_left ?_).trans (List.map_id _)).symm
      intro n hn
      simp [afterRename, unlisted (h.orderListsKeys kind ▸ hn)]
    descriptions := rfl
    live := mem_liveNames.mpr (.inl present)
    proper
    visible
    free
    released := fun v hv => Option.some.inj (released v hv)
  }

-----------------------------------------------------------------------------------------
-- What a substitution does to live names
-----------------------------------------------------------------------------------------

theorem Renamed.keys {s s' : Session} {old new : String} (r : s.Renamed s' old new)
    (kind : AdditionKind)
    : (s'.changes.entries kind).keys
      = (s.changes.entries kind).keys.map (afterRename old new) := by
  simp [OrderedMap.keys, r.entries kind]

theorem Renamed.current {s s' : Session} {old new : String} (h : s.Coherent)
    (r : s.Renamed s' old new) (n : String)
    : s'.renames.current n = afterRename old new (s.renames.current n) := by
  have known : old ∉ s.renames.keys := fun hk => h.givenUpNotLive old hk r.live
  rw [r.renames, current_recordRename new known]

theorem Renamed.baseNames {s s' : Session} {old new : String} (h : s.Coherent)
    (r : s.Renamed s' old new)
    : s'.baseNames = s.baseNames.map (afterRename old new) := by
  rw [Session.baseNames, Session.baseNames, r.base, List.map_map]
  exact List.map_congr_left fun n _ => r.current h n

/-- The live names after a rename are the renamed live names. -/
theorem Renamed.mem_liveNames {s s' : Session} {old new n : String} (h : s.Coherent)
    (r : s.Renamed s' old new)
    : n ∈ s'.liveNames ↔ ∃ m ∈ s.liveNames, afterRename old new m = n := by
  simp only [Session.mem_liveNames, r.baseNames h, r.keys, List.mem_map]
  constructor
  · intro h
    rcases h with ⟨m, hm, rfl⟩ | ⟨kind, m, hm, rfl⟩
    · exact ⟨m, .inl hm, rfl⟩
    · exact ⟨m, .inr ⟨kind, hm⟩, rfl⟩
  · intro h
    rcases h with ⟨m, hm | ⟨kind, hm⟩, rfl⟩
    · exact .inl ⟨m, hm, rfl⟩
    · exact .inr ⟨kind, m, hm, rfl⟩

/-- Live names that a rename makes equal were equal, since the new name was free. -/
theorem Renamed.live_inj {s s' : Session} {old new a b : String} (r : s.Renamed s' old new)
    (ha : a ∈ s.liveNames) (hb : b ∈ s.liveNames)
    (h : afterRename old new a = afterRename old new b)
    : a = b :=
  afterRename_injOn (ne_of_mem_of_not_mem ha r.free) (ne_of_mem_of_not_mem hb r.free) h

/-- The described tables after a rename are the renamed described tables. -/
theorem mem_keys_renamedDescriptions {d : OrderedMap String String} {old new n : String}
    (h : n ∈ (renamedDescriptions d old new).keys)
    : ∃ m ∈ d.keys, afterRename old new m = n := by
  simp only [renamedDescriptions] at h
  split at h
  · rename_i text ht
    rcases mem_keys_insert.mp h with rfl | h
    · exact ⟨old, mem_keys.mpr ⟨text, get?_eq_some_iff.mp ht⟩, if_pos rfl⟩
    · obtain ⟨hne, hm⟩ := mem_keys_erase.mp h
      exact ⟨n, hm, if_neg hne⟩
  · rename_i ht
    exact ⟨n, h, if_neg (ne_of_mem_of_not_mem h (get?_eq_none_iff.mp ht))⟩

/-- Renaming a live table to a free name keeps a session coherent: the substitution keeps
apart what was apart, and the new name has left the record of renames.
-/
theorem Coherent.renamed {s s' : Session} {old new : String} (h : s.Coherent)
    (r : s.Renamed s' old new)
    : s'.Coherent := by
  have live {kind : AdditionKind} {n : String} (hn : n ∈ (s.changes.entries kind).keys)
      : n ∈ s.liveNames :=
    Session.mem_liveNames.mpr (.inr ⟨kind, hn⟩)
  have liveBase {n : String} (hn : n ∈ s.baseNames) : n ∈ s.liveNames :=
    Session.mem_liveNames.mpr (.inl hn)
  have flat : s'.renames.Flat :=
    r.renames ▸ flat_recordRename h.renamesFlat r.proper r.released
  refine {
    orderListsKeys := ?_
    kindsDisjoint := ?_
    newTablesNotBase := ?_
    newFieldsOfBase := ?_
    givenUpNotLive := ?_
    renamesProper := fun e he => flat.ne he
    renamesFlat := flat
    currentInjective := ?_
    describedPending := ?_
    newFieldsNonempty := ?_ }
  · intro kind
    rw [r.order, r.keys, h.orderListsKeys]
  · intro n hn hf
    obtain ⟨a, ha, rfl⟩ := List.mem_map.mp (r.keys .newTables ▸ hn)
    obtain ⟨b, hb, he⟩ := List.mem_map.mp (r.keys .newFields ▸ hf)
    have hab := r.live_inj (live hb) (live ha) he
    exact h.kindsDisjoint a ha (hab ▸ hb)
  · intro n hn hb
    obtain ⟨a, ha, rfl⟩ := List.mem_map.mp (r.keys .newTables ▸ hn)
    obtain ⟨b, hb, he⟩ := List.mem_map.mp (r.baseNames h ▸ hb)
    have hab := r.live_inj (liveBase hb) (live ha) he
    exact h.newTablesNotBase a ha (hab ▸ hb)
  · intro n hn
    obtain ⟨a, ha, rfl⟩ := List.mem_map.mp (r.keys .newFields ▸ hn)
    rw [r.baseNames h]
    exact List.mem_map.mpr ⟨a, h.newFieldsOfBase a ha, rfl⟩
  · intro n hn hl
    obtain ⟨m, hm, rfl⟩ := (r.mem_liveNames h).mp hl
    rw [r.renames] at hn
    by_cases hmo : m = old
    · rw [afterRename, if_pos hmo] at hn
      exact new_notMem_keys_recordRename r.proper r.released hn
    · rw [afterRename, if_neg hmo] at hn
      rcases mem_keys_of_mem_keys_recordRename hn with ho | hk
      · exact hmo ho
      · exact h.givenUpNotLive m hk hm
  · intro a ha b hb he
    rw [r.base] at ha hb
    rw [r.current h, r.current h] at he
    have current_live {c : String} (hc : c ∈ s.base.tableNames)
        : s.renames.current c ∈ s.liveNames :=
      liveBase (mem_baseNames.mpr ⟨c, hc, rfl⟩)
    exact h.currentInjective a ha b hb (r.live_inj (current_live ha) (current_live hb) he)
  · intro n hn
    rw [r.descriptions] at hn
    obtain ⟨m, hm, rfl⟩ := mem_keys_renamedDescriptions hn
    obtain ⟨kind, hk⟩ := Additions.mem_tableNames.mp (h.describedPending m hm)
    refine Additions.mem_tableNames.mpr ⟨kind, ?_⟩
    rw [r.keys]
    exact List.mem_map.mpr ⟨m, hk, rfl⟩
  · intro e he
    obtain ⟨e', he', rfl⟩ := List.mem_map.mp (r.entries .newFields ▸ he)
    exact h.newFieldsNonempty e' he'

-----------------------------------------------------------------------------------------
-- Edits of the additions to one table
-----------------------------------------------------------------------------------------

/-- The additions after those to one table were replaced. -/
theorem entries_withFields (s : Session) (kind kind' : AdditionKind) (table : String)
    (fields : List Field)
    : (s.withFields kind table fields).changes.entries kind'
      = if kind = kind' then (s.changes.entries kind).insert table fields
        else s.changes.entries kind' :=
  Additions.entries_withEntries s.changes kind kind' _

/-- The additions after those to one table were forgotten. -/
theorem entries_withoutTable (s : Session) (kind kind' : AdditionKind) (table : String)
    : (s.withoutTable kind table).changes.entries kind'
      = if kind = kind' then (s.changes.entries kind).erase table
        else s.changes.entries kind' := by
  rw [← Additions.entries_withEntries]
  cases kind' <;> rfl

/-- Replacing the fields of a table of the changes keeps all lists of tables. -/
theorem keys_withFields {s : Session} {kind : AdditionKind} {table : String}
    (present : table ∈ (s.changes.entries kind).keys) (fields : List Field)
    (kind' : AdditionKind)
    : ((s.withFields kind table fields).changes.entries kind').keys
      = (s.changes.entries kind').keys := by
  rw [entries_withFields]
  by_cases hk : kind = kind'
  · subst hk
    rw [if_pos rfl, keys_insert, if_pos present]
  · rw [if_neg hk]

/-- Forgetting a table takes it from one list of tables. -/
theorem mem_keys_withoutTable {s : Session} {kind kind' : AdditionKind} {table n : String}
    : n ∈ ((s.withoutTable kind table).changes.entries kind').keys
      ↔ (kind = kind' → n ≠ table) ∧ n ∈ (s.changes.entries kind').keys := by
  rw [entries_withoutTable]
  by_cases hk : kind = kind'
  · subst hk
    simp [mem_keys_erase]
  · simp [hk]

/-- Replacing the fields of a table sets its entry and keeps all others. -/
theorem mem_entries_withFields {s : Session} {kind : AdditionKind} {table : String}
    {fields : List Field} {e : String × List Field} (kind' : AdditionKind)
    (h : e ∈ ((s.withFields kind table fields).changes.entries kind').entries)
    : e.2 = fields ∨ e ∈ (s.changes.entries kind').entries := by
  rw [entries_withFields] at h
  by_cases hk : kind = kind'
  · subst hk
    rw [if_pos rfl] at h
    exact (mem_entries_insert.mp h).imp And.right And.right
  · rw [if_neg hk] at h
    exact .inr h

/-- Forgetting a table adds no entry. -/
theorem mem_entries_withoutTable {s : Session} {kind : AdditionKind} {table : String}
    {e : String × List Field} (kind' : AdditionKind)
    (h : e ∈ ((s.withoutTable kind table).changes.entries kind').entries)
    : e ∈ (s.changes.entries kind').entries := by
  rw [entries_withoutTable] at h
  by_cases hk : kind = kind'
  · subst hk
    rw [if_pos rfl] at h
    exact (mem_entries_erase.mp h).2
  · rwa [if_neg hk] at h

/-- Replacing the fields added to a table by others keeps a session coherent. -/
theorem Coherent.withFields {s : Session} (h : s.Coherent) {kind : AdditionKind}
    {table : String} {fields : List Field} (present : table ∈ (s.changes.entries kind).keys)
    (nonempty : fields ≠ [])
    : (s.withFields kind table fields).Coherent := by
  have keys := keys_withFields present fields
  have names : (s.withFields kind table fields).baseNames = s.baseNames := rfl
  have live {n : String} : n ∈ (s.withFields kind table fields).liveNames ↔ n ∈ s.liveNames := by
    simp only [Session.mem_liveNames, keys, names]
  refine {
    orderListsKeys := fun kind' => (h.orderListsKeys kind').trans (keys kind').symm
    kindsDisjoint := ?_
    newTablesNotBase := fun n hn => h.newTablesNotBase n (keys .newTables ▸ hn)
    newFieldsOfBase := fun n hn => h.newFieldsOfBase n (keys .newFields ▸ hn)
    givenUpNotLive := fun n hn hl => h.givenUpNotLive n hn (live.mp hl)
    renamesProper := h.renamesProper
    renamesFlat := h.renamesFlat
    currentInjective := h.currentInjective
    describedPending := ?_
    newFieldsNonempty := ?_ }
  · intro n hn hf
    exact h.kindsDisjoint n (keys .newTables ▸ hn) (keys .newFields ▸ hf)
  · intro n hn
    have hd : n ∈ s.changes.descriptions.keys := by
      cases kind <;> exact hn
    obtain ⟨kind', hk⟩ := Additions.mem_tableNames.mp (h.describedPending n hd)
    exact Additions.mem_tableNames.mpr ⟨kind', (keys kind').symm ▸ hk⟩
  · intro e he
    rcases mem_entries_withFields .newFields he with hv | he
    · exact hv ▸ nonempty
    · exact h.newFieldsNonempty e he

/-- Forgetting the additions to a table keeps a session coherent. -/
theorem Coherent.withoutTable {s : Session} (h : s.Coherent) {kind : AdditionKind}
    {table : String} (present : table ∈ (s.changes.entries kind).keys)
    : (s.withoutTable kind table).Coherent := by
  have keys (kind' : AdditionKind) {n : String}
      (hn : n ∈ ((s.withoutTable kind table).changes.entries kind').keys)
      : n ∈ (s.changes.entries kind').keys :=
    (mem_keys_withoutTable.mp hn).2
  have names : (s.withoutTable kind table).baseNames = s.baseNames := rfl
  refine {
    orderListsKeys := ?_
    kindsDisjoint := ?_
    newTablesNotBase := fun n hn => h.newTablesNotBase n (keys .newTables hn)
    newFieldsOfBase := fun n hn => h.newFieldsOfBase n (keys .newFields hn)
    givenUpNotLive := ?_
    renamesProper := h.renamesProper
    renamesFlat := h.renamesFlat
    currentInjective := h.currentInjective
    describedPending := ?_
    newFieldsNonempty := ?_ }
  · intro kind'
    rw [entries_withoutTable, Session.withoutTable, DisplayOrder.names_withNames]
    by_cases hk : kind = kind'
    · subst hk
      rw [if_pos rfl, if_pos rfl, keys_erase, h.orderListsKeys]
    · rw [if_neg hk, if_neg hk, h.orderListsKeys]
  · intro n hn hf
    exact h.kindsDisjoint n (keys .newTables hn) (keys .newFields hf)
  · intro n hn hl
    apply h.givenUpNotLive n hn
    rw [Session.mem_liveNames] at hl ⊢
    exact hl.imp id fun ⟨kind', hk⟩ => ⟨kind', keys kind' hk⟩
  · intro n hn
    have hd : n ∈ (s.changes.descriptions.erase table).keys := by
      cases kind <;> exact hn
    obtain ⟨hne, hd⟩ := mem_keys_erase.mp hd
    obtain ⟨kind', hk⟩ := Additions.mem_tableNames.mp (h.describedPending n hd)
    exact Additions.mem_tableNames.mpr ⟨kind', mem_keys_withoutTable.mpr ⟨fun _ => hne, hk⟩⟩
  · exact fun e he => h.newFieldsNonempty e (mem_entries_withoutTable .newFields he)

/-- A new table under a free name keeps a session coherent. -/
theorem Coherent.withNewTable {s : Session} (h : s.Coherent) {name : String}
    (free : name ∉ s.reservedNames none)
    : (s.withNewTable name).Coherent := by
  obtain ⟨free, released⟩ := notMem_reservedNames.mp free
  have current : name ∉ s.renames.keys := by
    intro hk
    obtain ⟨v, hv⟩ := mem_keys.mp hk
    exact Option.some_ne_none v (released v hv)
  have unlisted : name ∉ s.changes.newTables.keys := fun hn =>
    free (Session.mem_liveNames.mpr (.inr ⟨.newTables, hn⟩))
  have notBase : name ∉ s.baseNames := fun hn => free (Session.mem_liveNames.mpr (.inl hn))
  have notExtended : name ∉ s.changes.newFields.keys := fun hn =>
    notBase (h.newFieldsOfBase name hn)
  have keys : (s.withNewTable name).changes.newTables.keys
      = s.changes.newTables.keys ++ [name] :=
    (keys_insert s.changes.newTables name _).trans (if_neg unlisted)
  have mem {n : String} (hn : n ∈ (s.withNewTable name).changes.newTables.keys)
      : n ∈ s.changes.newTables.keys ∨ n = name := by
    simpa [keys] using hn
  have names : (s.withNewTable name).baseNames = s.baseNames := rfl
  refine {
    orderListsKeys := ?_
    kindsDisjoint := ?_
    newTablesNotBase := ?_
    newFieldsOfBase := h.newFieldsOfBase
    givenUpNotLive := ?_
    renamesProper := h.renamesProper
    renamesFlat := h.renamesFlat
    currentInjective := h.currentInjective
    describedPending := ?_
    newFieldsNonempty := h.newFieldsNonempty }
  · intro kind
    cases kind with
    | newTables =>
        have he : (s.withNewTable name).order.names .newTables
            = s.order.names .newTables ++ [name] := rfl
        rw [he, h.orderListsKeys]
        exact keys.symm
    | newFields => exact h.orderListsKeys .newFields
  · intro n hn hf
    rcases mem hn with hn | rfl
    · exact h.kindsDisjoint n hn hf
    · exact notExtended hf
  · intro n hn hb
    rcases mem hn with hn | rfl
    · exact h.newTablesNotBase n hn hb
    · exact notBase hb
  · intro n hn hl
    rcases Session.mem_liveNames.mp hl with hb | ⟨kind, hk⟩
    · exact h.givenUpNotLive n hn (Session.mem_liveNames.mpr (.inl hb))
    · cases kind with
      | newTables =>
          rcases mem hk with hk | rfl
          · exact h.givenUpNotLive n hn (Session.mem_liveNames.mpr (.inr ⟨.newTables, hk⟩))
          · exact current hn
      | newFields =>
          exact h.givenUpNotLive n hn (Session.mem_liveNames.mpr (.inr ⟨.newFields, hk⟩))
  · intro n hn
    obtain ⟨kind, hk⟩ := Additions.mem_tableNames.mp (h.describedPending n hn)
    refine Additions.mem_tableNames.mpr ⟨kind, ?_⟩
    cases kind with
    | newTables => exact keys ▸ List.mem_append_left _ hk
    | newFields => exact hk

-----------------------------------------------------------------------------------------
-- One edit, and every history of edits
-----------------------------------------------------------------------------------------

/-- Every edit keeps a session coherent, effect by effect. -/
theorem Coherent.step {s s' : Session} (h : s.Coherent) (step : s.Step s')
    : s'.Coherent := by
  cases step.effect with
  | unchanged => exact h
  | entryRenamed kind old new present proper visible free =>
      exact h.renamed (h.renamed_entry present proper visible free)
  | baseRenamed old new absent present proper visible free =>
      exact h.renamed (h.renamed_base absent present proper visible free)
  | tableAdded name free => exact h.withNewTable free
  | tableRemoved kind table present => exact h.withoutTable present
  | fieldsReplaced kind table fields present nonempty => exact h.withFields present nonempty
  | committed result done => exact coherent_settled _ _

end Session

/-- After every editing history on any base schema and proposal, refused operations and returns
to saved copies included, the lists and maps of the session fit together. By induction on the
history, since opening a session makes it coherent and every edit keeps it so.
-/
theorem Workspace.coherent_after_history (base proposal : Schema) (ops : List Operation)
    : ((opened base proposal).performAll ops).session.Coherent :=
  holds_after_history (Session.coherent_start base proposal)
    (fun _ _ h step => h.step step) ops

end SchemaMarkup
