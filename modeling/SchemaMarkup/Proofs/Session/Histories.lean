import SchemaMarkup.Proofs.Outcome
import SchemaMarkup.Session.History

/-! Editing histories by single edits. What holds of a session when it is opened and survives
every edit that is not refused holds after every history, of the session and of all copies that
were saved of it.
-/

namespace SchemaMarkup

open Outcome

/-- One edit that is not refused leads from a session to the next. -/
inductive Session.Step (s : Session) : Session → Prop
  | rename {old new kind? s'} (done : s.rename old new kind? = .ok s')
    : s.Step s'
  | addTable {name? name s'} (done : s.addTable name? = .ok (name, s'))
    : s.Step s'
  | removeTable {name kind? s'} (done : s.removeTable name kind? = .ok s')
    : s.Step s'
  | addField {table kind? i s'} (done : s.addField table kind? = .ok (i, s'))
    : s.Step s'
  | changeField {table i edit kind? s'} (done : s.changeField table i edit kind? = .ok s')
    : s.Step s'
  | removeField {table i kind? s'} (done : s.removeField table i kind? = .ok s')
    : s.Step s'
  | commit {schema s'} (done : s.commit = .ok (schema, s'))
    : s.Step s'

namespace Workspace

/-- The workspace of a user who opens a session on a base schema and a proposal. -/
def opened (base proposal : Schema) : Workspace where
  session := .start base proposal

/-- A property of the current session and of every saved copy. -/
def All (P : Session → Prop) (w : Workspace) : Prop :=
  P w.session ∧ ∀ s ∈ w.snapshots, P s

/-- An operation that is not refused edits the session, saves a copy of it or goes back to a
saved copy, by cases on the operation.
-/
theorem attempt_cases {w w' : Workspace} {op : Operation} {reply : Reply}
    (h : w.attempt op = .ok (reply, w'))
    : (∃ s, w.session.Step s ∧ w' = w.withSession s)
      ∨ w' = w
      ∨ w' = { w with snapshots := w.snapshots ++ [w.session] }
      ∨ ∃ s ∈ w.snapshots, w' = w.withSession s := by
  cases op with
  | rename old new kind =>
      obtain ⟨s, hs, h⟩ := bind_eq_ok.mp h
      exact .inl ⟨s, .rename hs, (congrArg Prod.snd (Except.ok.inj h)).symm⟩
  | addTable name =>
      obtain ⟨⟨name, s⟩, hs, h⟩ := bind_eq_ok.mp h
      exact .inl ⟨s, .addTable hs, (congrArg Prod.snd (Except.ok.inj h)).symm⟩
  | removeTable name kind =>
      obtain ⟨s, hs, h⟩ := bind_eq_ok.mp h
      exact .inl ⟨s, .removeTable hs, (congrArg Prod.snd (Except.ok.inj h)).symm⟩
  | addField table kind =>
      obtain ⟨⟨i, s⟩, hs, h⟩ := bind_eq_ok.mp h
      exact .inl ⟨s, .addField hs, (congrArg Prod.snd (Except.ok.inj h)).symm⟩
  | changeField table i edit kind =>
      obtain ⟨s, hs, h⟩ := bind_eq_ok.mp h
      exact .inl ⟨s, .changeField hs, (congrArg Prod.snd (Except.ok.inj h)).symm⟩
  | removeField table i kind =>
      obtain ⟨s, hs, h⟩ := bind_eq_ok.mp h
      exact .inl ⟨s, .removeField hs, (congrArg Prod.snd (Except.ok.inj h)).symm⟩
  | merge =>
      obtain ⟨result, _, h⟩ := bind_eq_ok.mp h
      exact .inr (.inl (congrArg Prod.snd (Except.ok.inj h)).symm)
  | commit =>
      obtain ⟨⟨schema, s⟩, hs, h⟩ := bind_eq_ok.mp h
      exact .inl ⟨s, .commit hs, (congrArg Prod.snd (Except.ok.inj h)).symm⟩
  | snapshot =>
      exact .inr (.inr (.inl (congrArg Prod.snd (Except.ok.inj h)).symm))
  | restore number =>
      simp only [attempt] at h
      split at h
      · rename_i s hs
        obtain ⟨i, _, hi⟩ := Option.bind_eq_some_iff.mp hs
        exact .inr (.inr (.inr ⟨s, List.mem_of_getElem? hi,
          (congrArg Prod.snd (Except.ok.inj h)).symm⟩))
      · cases h

/-- What every edit preserves, every operation preserves, refused ones included. -/
theorem All.perform {P : Session → Prop} {w : Workspace} (h : w.All P)
    (step : ∀ s s' : Session, P s → s.Step s' → P s') (op : Operation)
    : (w.perform op).2.All P := by
  rw [Workspace.perform]
  split
  · rename_i reply w' done
    rcases attempt_cases done with ⟨s, hs, rfl⟩ | rfl | rfl | ⟨s, hs, rfl⟩
    · exact ⟨step _ s h.1 hs, h.2⟩
    · exact h
    · refine ⟨h.1, ?_⟩
      intro s hs
      rcases List.mem_append.mp hs with hs | hs
      · exact h.2 s hs
      · exact List.mem_singleton.mp hs ▸ h.1
    · exact ⟨h.2 s hs, h.2⟩
  · exact h

/-- What every edit preserves, every history preserves, by induction on the operations. -/
theorem All.performAll {P : Session → Prop} {w : Workspace} (h : w.All P)
    (step : ∀ s s' : Session, P s → s.Step s' → P s') (ops : List Operation)
    : (w.performAll ops).All P := by
  induction ops generalizing w with
  | nil => exact h
  | cons op ops ih => exact ih (h.perform step op)

/-- What holds of a session when it is opened and survives every edit holds after every
history.
-/
theorem holds_after_history {P : Session → Prop} {base proposal : Schema}
    (start : P (.start base proposal)) (step : ∀ s s' : Session, P s → s.Step s' → P s')
    (ops : List Operation)
    : P ((opened base proposal).performAll ops).session :=
  have h : (opened base proposal).All P := ⟨start, by simp [opened]⟩
  (h.performAll step ops).1

end Workspace
end SchemaMarkup
