import SchemaMarkup.Proofs.Session.AcceptedRenames
import SchemaMarkup.Proofs.Session.InPlace

/-! Operations are carried out as a whole or not at all, after every editing history, and a rename
is refused for just the reasons that it should be.
-/

namespace SchemaMarkup

-----------------------------------------------------------------------------------------
-- Why a rename is refused
-----------------------------------------------------------------------------------------

namespace Session

variable {s : Session} {old new name : String}

/-- A name is refused to a table if another one has it or has given it up. -/
def Taken (s : Session) (old name : String) : Prop :=
  name ∈ s.liveNames ∨ ∃ e ∈ s.renames.entries, e.1 = name ∧ e.2 ≠ old

instance : Decidable (s.Taken old name) :=
  inferInstanceAs (Decidable (_ ∨ _))

theorem taken_iff
    : s.Taken old name ↔ name ∈ s.reservedNames (some old) := by
  rw [← not_iff_not, notMem_reservedNames, Taken, not_or]
  refine and_congr_right fun _ => ⟨fun h v hv => ?_, fun h => ?_⟩
  · exact congrArg some (not_not.mp fun hne => h ⟨(name, v), hv, rfl, hne⟩)
  · rintro ⟨⟨_, v⟩, hv, rfl, hne⟩
    exact hne (Option.some.inj (h v hv))

/-- A name that is not live is of no table that could be renamed. -/
theorem rename_unknown (nonempty : Text.trimmed new ≠ "") (proper : Text.trimmed new ≠ old)
    (absent : old ∉ s.liveNames)
    : s.rename old new none = .error (.unknownTable old) := by
  rw [liveNames, List.mem_append, not_or] at absent
  have unchanged : s.changes.kindOf? old = none := Additions.kindOf?_eq_none_iff.mpr absent.2
  rw [rename_eq, if_neg nonempty, if_neg proper, unchanged, if_pos (by simp [absent.1])]

theorem rename_taken (nonempty : Text.trimmed new ≠ "") (proper : Text.trimmed new ≠ old)
    (live : old ∈ s.liveNames) (taken : s.Taken old (Text.trimmed new))
    : s.rename old new none = .error (.tableNameInUse (Text.trimmed new)) := by
  have known
      : ¬ (!((none : Option AdditionKind).isSome || (s.changes.kindOf? old).isSome)
        && decide (old ∉ s.baseNames)) = true := by
    cases hk : s.changes.kindOf? old with
    | some kind => simp
    | none =>
        have base := (List.mem_append.mp live).resolve_right
          (Additions.kindOf?_eq_none_iff.mp hk)
        simp [base]
  rw [rename_eq, if_neg nonempty, if_neg proper, if_neg known, if_pos (taken_iff.mp taken)]

/-- A rename that is not refused makes the new name live, and the old one no longer: the names that
are live are the renamed ones.
-/
theorem Coherent.exists_renamed (h : s.Coherent) (nonempty : Text.trimmed new ≠ "")
    (proper : Text.trimmed new ≠ old) (live : old ∈ s.liveNames)
    (free : ¬ s.Taken old (Text.trimmed new))
    : ∃ s', s.rename old new none = .ok s' ∧ Text.trimmed new ∈ s'.liveNames
        ∧ old ∉ s'.liveNames := by
  obtain ⟨unused, released⟩ := notMem_reservedNames.mp (taken_iff.not.mp free)
  obtain ⟨s', done, renamed⟩ := h.exists_rename live rfl nonempty proper unused
    fun v hv => Option.some.inj (released v hv)
  refine ⟨s', done, ?_, ?_⟩
  · exact (renamed.mem_liveNames h).mpr ⟨old, live, if_pos rfl⟩
  · intro hold
    obtain ⟨n, hn, he⟩ := (renamed.mem_liveNames h).mp hold
    by_cases hno : n = old
    · rw [afterRename, if_pos hno] at he
      exact proper he
    · rw [afterRename, if_neg hno] at he
      exact hno he

end Session

namespace Workspace

/-- After every editing history, every operation that is carried out in place either does all that
it means or breaks off with the workspace as it was. A rename that asks for no kind of additions is
refused if the new name is empty; otherwise it does nothing if that is the old one, is refused if no
table has the old one or if the new one is taken, and else makes the new name live instead of the
old one.
-/
theorem operations_all_or_nothing (base proposal : Schema) (ops : List Operation)
    : let w := (opened base proposal).performAll ops
      (∀ op, match carryOut op w with
        | .ok reply w' => w.attempt op = .ok (reply, w')
        | .error e w' => w.attempt op = .error e ∧ w' = w)
      ∧ ∀ old new,
        let s := w.session
        let name := Text.trimmed new
        let outcome := InPlace.rename old new none s
        if name = "" then outcome = .error .emptyTableName s
        else if name = old then outcome = .ok () s
        else if old ∉ s.liveNames then outcome = .error (.unknownTable old) s
        else if s.Taken old name then outcome = .error (.tableNameInUse name) s
        else ∃ s', outcome = .ok () s' ∧ name ∈ s'.liveNames ∧ old ∉ s'.liveNames := by
  intro w
  have coherent : w.session.Coherent :=
    holds_after_history (Session.coherent_start base proposal) (fun _ _ h step => h.step step) ops
  refine ⟨fun op => ?_, fun old new => ?_⟩
  · rw [run_carryOut]
    cases w.attempt op with
    | ok result => rfl
    | error e => exact ⟨rfl, rfl⟩
  · dsimp only
    rw [InPlace.run_rename]
    split
    · rename_i empty
      rw [Session.rename_eq, if_pos empty]
      rfl
    split
    · rename_i nonempty same
      rw [Session.rename_eq, if_neg nonempty, if_pos same]
      rfl
    rename_i nonempty proper
    split
    · rename_i absent
      rw [Session.rename_unknown nonempty proper absent]
      rfl
    rename_i present
    have live := not_not.mp present
    split
    · rename_i taken
      rw [Session.rename_taken nonempty proper live taken]
      rfl
    · rename_i free
      obtain ⟨s', done, gained, lost⟩ := coherent.exists_renamed nonempty proper live free
      rw [done]
      exact ⟨s', rfl, gained, lost⟩

end Workspace
end SchemaMarkup
