import SchemaMarkup.Proofs.Session.CoherentHistories

/-! Renames that are not refused. In a coherent session they are the renames of live tables to
names that are free for them, and what they leave of descriptions and of the record of renames can
be told entry by entry.
-/

namespace SchemaMarkup

open OrderedMap

/-- An order is determined by the orders of both kinds. -/
theorem DisplayOrder.eq_of_names {o o' : DisplayOrder} (h : ∀ kind, o.names kind = o'.names kind)
    : o = o' := by
  cases o
  cases o'
  exact DisplayOrder.mk.injEq .. |>.mpr ⟨h .newTables, h .newFields⟩

/-- The earlier names of a table are found in any two parts of the record in turn. -/
theorem Renames.earlier_append {m : Renames} {es es' : List (String × String)}
    (h : m.entries = es ++ es') (n : String)
    : m.earlier n
      = (es.filter fun e => e.2 = n && e.1 ≠ n).map Prod.fst
        ++ (es'.filter fun e => e.2 = n && e.1 ≠ n).map Prod.fst := by
  rw [← List.map_append, ← List.filter_append, ← h]
  rfl

namespace Session

variable {s s' : Session} {old new : String}

/-- A table of the changes has additions of a kind that can be edited. -/
theorem exists_kindHolding (pending : old ∈ s.changes.tableNames)
    : ∃ kind, s.kindHolding old none = .ok kind := by
  cases hk : s.changes.kindOf? old with
  | none => exact absurd pending (Additions.kindOf?_eq_none_iff.mp hk)
  | some kind =>
      have held : (s.changes.entries kind).contains old = true :=
        List.find?_some (p := fun kind => (s.changes.entries kind).contains old) hk
      exact ⟨kind, by simp [kindHolding, hk, held]⟩

/-- A rename that is not refused and gives a new name is a substitution. -/
theorem Coherent.renamed_of_rename (h : s.Coherent) (done : s.rename old new none = .ok s')
    (proper : Text.trimmed new ≠ old)
    : s.Renamed s' old (Text.trimmed new) := by
  obtain ⟨nonempty, ⟨he, _⟩ | ⟨_, free, hs⟩⟩ := rename_eq_ok_iff.mp done
  · exact absurd he proper
  · have visible := Text.isBlankText_trimmed nonempty
    rcases hs with ⟨kind, hk, rfl⟩ | ⟨_, absent, present, rfl⟩
    · exact h.renamed_entry (mem_keys_of_kindHolding hk) proper visible free
    · exact h.renamed_base absent present proper visible free

/-- A rename to the same name changes nothing. -/
theorem rename_same (done : s.rename old new none = .ok s') (same : Text.trimmed new = old)
    : s' = s := by
  obtain ⟨_, ⟨_, hs⟩ | ⟨proper, _⟩⟩ := rename_eq_ok_iff.mp done
  · exact hs
  · exact absurd same proper

/-- A live table can be renamed to a name that no table has and that only it has given up. -/
theorem Coherent.exists_rename {name : String} (h : s.Coherent) (live : old ∈ s.liveNames)
    (trimmed : Text.trimmed new = name) (nonempty : name ≠ "") (proper : name ≠ old)
    (free : name ∉ s.liveNames) (released : ∀ v, (name, v) ∈ s.renames.entries → v = old)
    : ∃ s', s.rename old new none = .ok s' ∧ s.Renamed s' old name := by
  subst trimmed
  have unreserved : Text.trimmed new ∉ s.reservedNames (some old) :=
    notMem_reservedNames.mpr ⟨free, fun v hv => congrArg some (released v hv)⟩
  obtain ⟨s', done⟩ : ∃ s', s.rename old new none = .ok s' := by
    by_cases pending : old ∈ s.changes.tableNames
    · obtain ⟨kind, hk⟩ := exists_kindHolding pending
      exact ⟨_, rename_eq_ok_iff.mpr
        ⟨nonempty, .inr ⟨proper, unreserved, .inl ⟨kind, hk, rfl⟩⟩⟩⟩
    · have present : old ∈ s.baseNames :=
        (List.mem_append.mp live).resolve_right pending
      exact ⟨_, rename_eq_ok_iff.mpr
        ⟨nonempty, .inr ⟨proper, unreserved, .inr ⟨rfl, pending, present, rfl⟩⟩⟩⟩
  exact ⟨s', done, h.renamed_of_rename done proper⟩

/-- The description of a renamed table is found under its new name, where there was none. -/
theorem Renamed.get?_descriptions (h : s.Coherent) (r : s.Renamed s' old new) (n : String)
    : s'.changes.descriptions.get? n
      = if n = new then s.changes.descriptions.get? old
        else if n = old then none
        else s.changes.descriptions.get? n := by
  have undescribed : s.changes.descriptions.get? new = none :=
    get?_eq_none_iff.mpr fun hd =>
      r.free (List.mem_append_right _ (h.describedPending new hd))
  have erased (m : OrderedMap String String) (k : String)
      : (m.erase old).get? k = if k = old then none else m.get? k := by
    refine Option.ext fun v => ?_
    by_cases hk : k = old <;> simp [get?_eq_some_iff, mem_entries_erase, hk]
  rw [r.descriptions, renamedDescriptions]
  cases hd : s.changes.descriptions.get? old with
  | none =>
      by_cases hn : n = new
      · rw [if_pos hn, hn, undescribed]
      · by_cases ho : n = old
        · rw [if_neg hn, if_pos ho, ho, hd]
        · rw [if_neg hn, if_neg ho]
  | some text =>
      simp only [get?_insert, erased]
      by_cases hn : n = new
      · rw [if_pos hn, if_pos hn.symm]
      · rw [if_neg hn, if_neg (Ne.symm hn)]

/-- An entry of the record after a rename: it leads to the new name if it led to the old one, and
is left out if it then leads to itself.
-/
def redirect? (old new : String) (e : String × String) : Option (String × String) :=
  if e.1 = afterRename old new e.2 then none else some (e.1, afterRename old new e.2)

/-- The record after the rename of a name that does not lead on: all entries redirected, and last
the one from the old name to the new one.
-/
theorem entries_recordRename {m : Renames} (proper : new ≠ old) (fresh : old ∉ m.keys)
    : (recordRename m old new).entries
      = m.entries.filterMap (redirect? old new) ++ [(old, new)] := by
  have absent : old ∉ (m.entries.map fun e => (e.1, afterRename old new e.2)).map Prod.fst := by
    simpa [OrderedMap.keys] using fresh
  have kept : [(old, new)].filter (fun e => decide (e.1 ≠ e.2)) = [(old, new)] :=
    List.filter_eq_self.mpr (by simpa using proper.symm)
  have inserted : ((m.mapValues fun _ c => afterRename old new c).insert old new).entries
      = m.entries.map (fun e => (e.1, afterRename old new e.2)) ++ [(old, new)] :=
    insertEntry_of_notMem new absent
  have filtered : (recordRename m old new).entries
      = ((m.mapValues fun _ c => afterRename old new c).insert old new).entries.filter
          fun e => decide (e.1 ≠ e.2) := rfl
  rw [filtered, inserted, List.filter_append, kept, ← List.filterMap_eq_filter,
    List.filterMap_map]
  refine congrArg (· ++ [(old, new)]) (List.filterMap_congr fun e _ => ?_)
  simp [redirect?, Option.guard, Function.comp_apply, ite_not]

/-- The record after the rename of a live table. -/
theorem Renamed.entries_renames (h : s.Coherent) (r : s.Renamed s' old new)
    : s'.renames.entries = s.renames.entries.filterMap (redirect? old new) ++ [(old, new)] :=
  r.renames ▸ entries_recordRename r.proper fun hk => h.givenUpNotLive old hk r.live

end Session
end SchemaMarkup
