import SchemaMarkup.Proofs.Additions.Difference
import SchemaMarkup.Proofs.Session.FreshNames
import SchemaMarkup.Proofs.Session.Histories
import SchemaMarkup.Proofs.Session.Renaming
import SchemaMarkup.Proofs.Text.Blank

/-! What a single edit can do to a session. Every edit that is not refused has one of six
effects, each with the conditions under which the edit goes through.
-/

namespace SchemaMarkup.Session

open OrderedMap Outcome

/-- The session in which the rename of a table is recorded and its description follows it. -/
def withRename (s : Session) (old new : String) : Session :=
  { s with
    changes :=
      { s.changes with descriptions := renamedDescriptions s.changes.descriptions old new }
    renames := recordRename s.renames old new }

/-- The session with a new table of one key field, listed last. -/
def withNewTable (s : Session) (name : String) : Session :=
  let s := s.withFields .newTables name [firstField]
  { s with order := { s.order with newTables := s.order.newTables ++ [name] } }

/-- A rename by its outcome: three refusals in turn, the rename to the same name, and the
renames of a table of the changes and of a table of the base alone.
-/
theorem rename_eq (s : Session) (old new : String) (kind? : Option AdditionKind)
    : s.rename old new kind?
      = if Text.trimmed new = "" then .error .emptyTableName
        else if Text.trimmed new = old then .ok s
        else if !(kind?.isSome || (s.changes.kindOf? old).isSome) && decide (old ∉ s.baseNames)
          then .error (.unknownTable old)
        else if Text.trimmed new ∈ s.reservedNames (some old)
          then .error (.tableNameInUse (Text.trimmed new))
        else if kind?.isSome || (s.changes.kindOf? old).isSome then do
          let kind ← s.kindHolding old kind?
          return (s.withRenamedEntry kind old (Text.trimmed new)).withRename old
            (Text.trimmed new)
        else .ok (s.withRename old (Text.trimmed new)) := by
  simp only [rename, bind, Except.bind, pure, Except.pure, throw, throwThe,
    MonadExceptOf.throw, withRename]

/-- The kind of additions that is edited for a table holds additions to it. -/
theorem mem_keys_of_kindHolding {s : Session} {table : String} {kind? : Option AdditionKind}
    {kind : AdditionKind} (h : s.kindHolding table kind? = .ok kind)
    : table ∈ (s.changes.entries kind).keys := by
  simp only [kindHolding] at h
  split at h
  · cases h
  · split at h
    · rename_i hc
      exact Except.ok.inj h ▸ contains_iff.mp hc
    · cases h

/-- A rename goes through if the new name is not empty and is the old one or free for a table of
the changes or of the base alone, by the refusals in turn.
-/
theorem rename_eq_ok_iff {s s' : Session} {old new : String} {kind? : Option AdditionKind}
    : s.rename old new kind? = .ok s'
      ↔ Text.trimmed new ≠ ""
        ∧ (Text.trimmed new = old ∧ s' = s
          ∨ Text.trimmed new ≠ old ∧ Text.trimmed new ∉ s.reservedNames (some old)
            ∧ ((∃ kind, s.kindHolding old kind? = .ok kind
                ∧ s' = (s.withRenamedEntry kind old (Text.trimmed new)).withRename old
                    (Text.trimmed new))
              ∨ kind? = none ∧ old ∉ s.changes.tableNames ∧ old ∈ s.baseNames
                ∧ s' = s.withRename old (Text.trimmed new))) := by
  rw [rename_eq]
  by_cases nonempty : Text.trimmed new = ""
  · rw [if_pos nonempty]
    exact iff_of_false (fun h => nomatch h) fun h => h.1 nonempty
  rw [if_neg nonempty]
  refine Iff.trans ?_ (and_iff_right nonempty).symm
  by_cases proper : Text.trimmed new = old
  · rw [if_pos proper, Except.ok.injEq, eq_comm]
    exact ⟨fun h => .inl ⟨proper, h⟩, fun h => h.elim And.right fun h => absurd proper h.1⟩
  rw [if_neg proper]
  have other {p q : Prop} : (Text.trimmed new = old ∧ p) ∨ (Text.trimmed new ≠ old ∧ q) ↔ q := by
    simp [proper]
  rw [other]
  by_cases free : Text.trimmed new ∈ s.reservedNames (some old)
  · rw [if_pos free]
    refine iff_of_false (fun h => ?_) fun h => h.1 free
    split at h <;> cases h
  rw [if_neg free, and_iff_right free]
  cases pending : kind?.isSome || (s.changes.kindOf? old).isSome with
  | true =>
      have changed : ¬(kind? = none ∧ old ∉ s.changes.tableNames) := by
        intro h
        rw [h.1, Additions.kindOf?_eq_none_iff.mpr h.2] at pending
        cases pending
      rw [if_neg (by simp), if_pos rfl, bind_eq_ok]
      constructor
      · intro h
        obtain ⟨kind, hk, h⟩ := h
        exact .inl ⟨kind, hk, (Except.ok.inj h).symm⟩
      · intro h
        rcases h with ⟨kind, hk, rfl⟩ | ⟨hn, absent, _⟩
        · exact ⟨kind, hk, rfl⟩
        · exact absurd ⟨hn, absent⟩ changed
  | false =>
      rw [Bool.or_eq_false_iff, Option.isSome_eq_false_iff, Option.isSome_eq_false_iff,
        Option.isNone_iff_eq_none, Option.isNone_iff_eq_none] at pending
      obtain ⟨rfl, hn⟩ := pending
      have absent := Additions.kindOf?_eq_none_iff.mp hn
      have unheld {kind : AdditionKind} : s.kindHolding old none ≠ .ok kind := fun h =>
        absent (Additions.mem_tableNames.mpr ⟨kind, mem_keys_of_kindHolding h⟩)
      by_cases known : old ∈ s.baseNames
      · simp [known, absent, unheld, eq_comm]
      · simp [known, unheld]

theorem position?_lt {length : Nat} {index : Int} {i : Nat}
    (h : position? length index = some i)
    : i < length := by
  simp only [position?] at h
  split at h <;> split at h <;> simp only [Option.some.injEq, reduceCtorEq] at h <;> omega

/-- The effects that an edit can have on a session. -/
inductive Effect (s : Session) : Session → Prop
  /-- Nothing is changed. -/
  | unchanged : s.Effect s
  /-- A table of the changes gets a free name. -/
  | entryRenamed (kind : AdditionKind) (old new : String)
    (present : old ∈ (s.changes.entries kind).keys) (proper : new ≠ old)
    (visible : Text.isBlankText new = false) (free : new ∉ s.reservedNames (some old))
    : s.Effect ((s.withRenamedEntry kind old new).withRename old new)
  /-- A table of the base alone gets a free name. -/
  | baseRenamed (old new : String) (absent : old ∉ s.changes.tableNames)
    (present : old ∈ s.baseNames) (proper : new ≠ old)
    (visible : Text.isBlankText new = false) (free : new ∉ s.reservedNames (some old))
    : s.Effect (s.withRename old new)
  /-- A new table takes a free name. -/
  | tableAdded (name : String) (free : name ∉ s.reservedNames none)
    : s.Effect (s.withNewTable name)
  /-- A table leaves the changes. -/
  | tableRemoved (kind : AdditionKind) (table : String)
    (present : table ∈ (s.changes.entries kind).keys)
    : s.Effect (s.withoutTable kind table)
  /-- The fields added to a table are replaced by others, of which there are some. -/
  | fieldsReplaced (kind : AdditionKind) (table : String) (fields : List Field)
    (present : table ∈ (s.changes.entries kind).keys) (nonempty : fields ≠ [])
    : s.Effect (s.withFields kind table fields)
  /-- The merged schema becomes the base and nothing is pending. -/
  | committed (result : Merged) (done : s.merged = .ok result)
    : s.Effect { base := result.schema, proposal := result.schema }

/-- A rename that is not refused changes nothing or gives a table a free name. -/
theorem effect_of_rename {s s' : Session} {old new : String} {kind? : Option AdditionKind}
    (h : s.rename old new kind? = .ok s')
    : s.Effect s' := by
  obtain ⟨nonempty, ⟨_, rfl⟩ | ⟨proper, free, h⟩⟩ := rename_eq_ok_iff.mp h
  · exact .unchanged
  · have visible := Text.isBlankText_trimmed nonempty
    rcases h with ⟨kind, hk, rfl⟩ | ⟨_, absent, present, rfl⟩
    · exact .entryRenamed kind old _ (mem_keys_of_kindHolding hk) proper visible free
    · exact .baseRenamed old _ absent present proper visible free

/-- Every edit that is not refused has one of the six effects. -/
theorem Step.effect {s s' : Session} (h : s.Step s')
    : s.Effect s' := by
  cases h with
  | rename done => exact effect_of_rename done
  | addTable done =>
      obtain ⟨name, hn, h⟩ := bind_eq_ok.mp done
      obtain ⟨rfl, rfl⟩ := Prod.mk.inj (Except.ok.inj h)
      exact .tableAdded name (nameToAdd_notMem hn)
  | removeTable done =>
      obtain ⟨kind, hk, h⟩ := bind_eq_ok.mp done
      exact Except.ok.inj h ▸ .tableRemoved kind _ (mem_keys_of_kindHolding hk)
  | addField done =>
      obtain ⟨kind, hk, h⟩ := bind_eq_ok.mp done
      obtain ⟨rfl, rfl⟩ := Prod.mk.inj (Except.ok.inj h)
      exact .fieldsReplaced kind _ _ (mem_keys_of_kindHolding hk) (by simp)
  | @changeField table i edit kind? s' done =>
      obtain ⟨kind, hk, h⟩ := bind_eq_ok.mp done
      dsimp only at h
      split at h
      · cases h
      · rename_i j hj
        have hl := position?_lt hj
        refine Except.ok.inj h ▸ .fieldsReplaced kind _ _ (mem_keys_of_kindHolding hk) ?_
        apply List.ne_nil_of_length_pos
        rw [List.length_modify]
        omega
  | removeField done =>
      obtain ⟨kind, hk, h⟩ := bind_eq_ok.mp done
      dsimp only at h
      split at h
      · cases h
      · split at h
        · exact Except.ok.inj h ▸ .tableRemoved kind _ (mem_keys_of_kindHolding hk)
        · exact Except.ok.inj h ▸
            .fieldsReplaced kind _ _ (mem_keys_of_kindHolding hk) (List.cons_ne_nil _ _)
  | commit done =>
      obtain ⟨result, hr, h⟩ := bind_eq_ok.mp done
      obtain ⟨rfl, rfl⟩ := Prod.mk.inj (Except.ok.inj h)
      exact .committed result hr

end SchemaMarkup.Session
