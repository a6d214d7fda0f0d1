import SchemaMarkup.Proofs.Session.CoherentHistories
import SchemaMarkup.Session.InPlace

/-! Operations carried out in place and what they mean. The loops over entries come to maps and
filters of them, the writes of an edit come to the session after it, and since all checks are made
before anything is written, an operation that breaks off leaves what it found.
-/

namespace SchemaMarkup

open OrderedMap

namespace InPlace

-----------------------------------------------------------------------------------------
-- Programs step by step
-----------------------------------------------------------------------------------------

section

variable {σ π α β : Type} {before after : σ}

/-- What an outcome leaves: a new state, or the state before if there is none. -/
def settle (before : σ) : Except Error (α × σ) → EStateM.Result Error σ α
  | .ok (a, after) => .ok a after
  | .error e => .error e before

/-- A program goes on where its first part has ended. -/
theorem run_bind {program : EStateM Error σ α} {a : α} (h : program before = .ok a after)
    (next : α → EStateM Error σ β)
    : (program >>= next) before = next a after := by
  simp only [bind, EStateM.bind, h]

/-- A program breaks off where its first part has broken off. -/
theorem run_bind_error {program : EStateM Error σ α} {e : Error}
    (h : program before = .error e after) (next : α → EStateM Error σ β)
    : (program >>= next) before = .error e after := by
  simp only [bind, EStateM.bind, h]

theorem run_get (s : σ)
    : (get : EStateM Error σ σ) s = .ok s s :=
  rfl

theorem run_see (part : Session.Part π) (s : Session)
    : see part s = .ok (part.read s) s :=
  rfl

theorem run_change (part : Session.Part π) (f : π → π) (s : Session)
    : change part f s = .ok () (part.write (f (part.read s)) s) :=
  rfl

/-- A loop in which each turn changes one part of the session changes this part, by induction on
what the loop goes over.
-/
theorem run_forM (part : Session.Part π) {body : α → InPlace Unit} {f : π → α → π}
    (turn : ∀ a s, body a s = .ok () (part.write (f (part.read s) a) s)) (as : List α)
    (s : Session)
    : as.forM body s = .ok () (part.write (as.foldl f (part.read s)) s) := by
  induction as generalizing s with
  | nil => exact congrArg (EStateM.Result.ok ()) (part.write_read s).symm
  | cons a as ih =>
      have hrest : (a :: as).forM body s = (body a >>= fun _ => as.forM body) s := rfl
      rw [hrest, run_bind (turn a s), ih, part.read_write, part.write_write, List.foldl_cons]

/-- A loop in which some turns change one part of the session. -/
theorem run_forM_if (part : Session.Part π) (p : α → Prop) [DecidablePred p] (f : α → π → π)
    (as : List α) (s : Session)
    : (as.forM fun a => if p a then change part (f a) else pure ()) s
      = .ok () (part.write (as.foldl (fun x a => if p a then f a x else x) (part.read s)) s) := by
  refine run_forM part (fun a s => ?_) as s
  split
  · rfl
  · exact congrArg (EStateM.Result.ok ()) (part.write_read s).symm

end

-----------------------------------------------------------------------------------------
-- What the writes of an edit come to
-----------------------------------------------------------------------------------------

theorem run_drop (kind : AdditionKind) (table : String) (s : Session)
    : drop kind table s = .ok () (s.withoutTable kind table) := by
  cases kind <;> rfl

theorem run_changeFields (kind : AdditionKind) (table : String) (f : List Field → List Field)
    (s : Session)
    : changeFields kind table f s
      = .ok () (s.withFields kind table (f (s.fields kind table))) :=
  rfl

theorem run_renameDescription (old new : String) (s : Session)
    : renameDescription old new s
      = .ok () { s with
          changes.descriptions :=
            Session.renamedDescriptions s.changes.descriptions old new } := by
  have read : Session.Part.descriptions.read s = s.changes.descriptions := rfl
  rw [renameDescription, run_bind (run_see _ s), read, Session.renamedDescriptions]
  cases s.changes.descriptions.get? old <;> rfl

theorem run_recordRename (old new : String) (s : Session)
    : recordRename old new s
      = .ok () { s with renames := Session.recordRename s.renames old new } := by
  have read : Session.Part.renames.read s = s.renames := rfl
  have sent := foldl_insert_eq_mapValues (· = old) new s.renames
  have kept := foldl_erase_eq_filter (fun e : String × String => e.1 = e.2)
    ((s.renames.mapValues fun _ current => if current = old then new else current).insert old new)
  rw [recordRename, run_bind (run_see _ s), run_bind (run_forM_if ..), run_bind (run_change ..),
    run_bind (run_see ..), run_forM_if, Session.Part.read_write, Session.Part.read_write,
    Session.Part.write_write, Session.Part.write_write, read, sent, kept]
  rfl

/-- Putting renamed entries into an empty map one by one renames the keys, since these are distinct.
-/
theorem run_renameKey (kind : AdditionKind) (old new : String) (s : Session)
    : renameKey kind old new s
      = .ok () ((Session.Part.entries kind).write
          ((s.changes.entries kind).mapKeys fun n => if n = old then new else n) s) := by
  have refilled (m : OrderedMap String (List Field)) : ofList m.entries = m :=
    eq_of_entries (entries_ofList m.nodup_keys)
  have turn (e : String × List Field) (s : Session)
      : change (.entries kind) (·.insert e.1 e.2) s
        = .ok () ((Session.Part.entries kind).write
            (((Session.Part.entries kind).read s).insert e.1 e.2) s) :=
    rfl
  rw [renameKey, run_bind (run_see _ s), run_bind (run_change _ _ _),
    run_forM (f := fun m e => m.insert e.1 e.2) (.entries kind) turn, Session.Part.read_write,
    Session.Part.write_write]
  exact congrArg (fun m => EStateM.Result.ok () ((Session.Part.entries kind).write m s))
    (refilled _)

theorem run_fillOrder (kind : AdditionKind) (new : String) (s : Session)
    : fillOrder kind new s
      = .ok () ((Session.Part.order kind).write
          (if (s.order.names kind).isEmpty then (s.changes.entries kind).keys.filter (· ≠ new)
            else s.order.names kind) s) := by
  have order : (Session.Part.order kind).read s = s.order.names kind := rfl
  have extended (listed keys : List String)
      : keys.foldl (fun x a => if a ≠ new then x ++ [a] else x) listed
        = listed ++ keys.filter (· ≠ new) := by
    induction keys generalizing listed with
    | nil => simp
    | cons n keys ih =>
        rw [List.foldl_cons, ih]
        by_cases hn : n = new <;> simp [hn]
  rw [fillOrder, run_bind (run_see _ s), order]
  split
  · rename_i empty
    rw [run_bind (run_see _ s), run_forM_if (.order kind) (fun n => n ≠ new), extended, order,
      List.isEmpty_iff.mp empty, List.nil_append]
    rfl
  · exact congrArg (EStateM.Result.ok ()) ((Session.Part.order kind).write_read s).symm

theorem run_renameInOrder (kind : AdditionKind) (old new : String) (s : Session)
    : renameInOrder kind old new s
      = .ok () ((Session.Part.order kind).write
          (let renamed := (s.order.names kind).map fun n => if n = old then new else n
          if new ∈ renamed then renamed else renamed ++ [new]) s) := by
  have order : (Session.Part.order kind).read s = s.order.names kind := rfl
  rw [renameInOrder, run_bind (run_change _ _ s), run_bind (run_see _ _), Session.Part.read_write,
    order]
  dsimp only
  split
  · rename_i unlisted
    rw [run_change, Session.Part.read_write, Session.Part.write_write]
  · rename_i listed
    rw [if_pos (not_not.mp listed)]
    rfl

theorem run_renameEntry (kind : AdditionKind) (old new : String) (s : Session)
    : renameEntry kind old new s = .ok () (s.withRenamedEntry kind old new) := by
  rw [renameEntry, run_bind (run_renameKey ..), run_bind (run_fillOrder ..), run_renameInOrder]
  cases kind <;> rfl

-----------------------------------------------------------------------------------------
-- Each edit by its outcome
-----------------------------------------------------------------------------------------

theorem run_kindHolding (table : String) (kind? : Option AdditionKind) (s : Session)
    : kindHolding table kind? s = settle s ((s.kindHolding table kind?).map (·, s)) := by
  rw [kindHolding, run_bind (run_get s), Session.kindHolding]
  cases kind?.or (s.changes.kindOf? table) with
  | none => rfl
  | some kind =>
      dsimp only
      split <;> rfl

/-- A program that looks for a kind of additions first goes on with it or breaks off, as what it
means does.
-/
theorem run_bind_kindHolding {α β : Type} {table : String} {kind? : Option AdditionKind}
    {s : Session} {next : AdditionKind → InPlace α} {f : AdditionKind → Except Error β}
    {result : β → α × Session} (h : ∀ kind, next kind s = settle s ((f kind).map result))
    : (kindHolding table kind? >>= next) s
      = settle s ((s.kindHolding table kind? >>= f).map result) := by
  have hk := run_kindHolding table kind? s
  cases he : s.kindHolding table kind? with
  | error e =>
      rw [he] at hk
      exact run_bind_error hk next
  | ok kind =>
      rw [he] at hk
      exact (run_bind hk next).trans (h kind)

theorem run_rename (old new : String) (kind? : Option AdditionKind) (s : Session)
    : rename old new kind? s = settle s ((s.rename old new kind?).map ((), ·)) := by
  rw [Session.rename_eq, rename]
  by_cases empty : Text.trimmed new = ""
  · rw [if_pos empty, if_pos empty]
    rfl
  rw [if_neg empty, if_neg empty]
  by_cases same : Text.trimmed new = old
  · rw [if_pos same, if_pos same]
    rfl
  rw [if_neg same, if_neg same]
  dsimp only
  rw [run_bind (run_get s)]
  split
  · rfl
  split
  · rfl
  split
  · refine run_bind_kindHolding fun kind => ?_
    rw [run_bind (run_renameEntry ..), run_bind (run_renameDescription ..), run_recordRename]
    rfl
  · rw [run_bind (run_renameDescription ..), run_recordRename]
    rfl

theorem run_addTable (name? : Option String) (s : Session)
    : addTable name? s = settle s ((s.addTable name?).map id) := by
  rw [addTable, Session.addTable, Session.nameToAdd.eq_def, run_bind (run_get s)]
  cases name? with
  | none => rfl
  | some name =>
      dsimp only
      split
      · rfl
      split <;> rfl

theorem run_removeTable (name : String) (kind? : Option AdditionKind) (s : Session)
    : removeTable name kind? s = settle s ((s.removeTable name kind?).map ((), ·)) :=
  run_bind_kindHolding fun kind => run_drop kind name s

/-- The fields of a table that were just written are those. -/
theorem fields_withFields (s : Session) (kind : AdditionKind) (table : String)
    (fields : List Field)
    : (s.withFields kind table fields).fields kind table = fields := by
  rw [Session.fields, Session.entries_withFields, if_pos rfl, getD, get?_insert, if_pos rfl,
    Option.getD_some]

theorem run_addField (table : String) (kind? : Option AdditionKind) (s : Session)
    : addField table kind? s = settle s ((s.addField table kind?).map id) := by
  refine run_bind_kindHolding fun kind => ?_
  rw [run_bind (run_changeFields ..), run_bind (run_get _), fields_withFields, List.length_append]
  rfl

theorem run_changeField (table : String) (index : Int) (edit : FieldEdit)
    (kind? : Option AdditionKind) (s : Session)
    : changeField table index edit kind? s
      = settle s ((s.changeField table index edit kind?).map ((), ·)) := by
  refine run_bind_kindHolding fun kind => ?_
  rw [run_bind (run_get _)]
  dsimp only
  cases position? (s.fields kind table).length index <;> rfl

/-- Writing to the fields of a table that is removed then makes no difference. -/
theorem withoutTable_withFields (s : Session) (kind : AdditionKind) (table : String)
    (fields : List Field)
    : (s.withFields kind table fields).withoutTable kind table = s.withoutTable kind table := by
  cases kind <;>
    simp only [Session.withoutTable, Session.withFields, Additions.withEntries, Additions.entries,
      erase_insert]

theorem run_removeField (table : String) (index : Int) (kind? : Option AdditionKind)
    (s : Session)
    : removeField table index kind? s
      = settle s ((s.removeField table index kind?).map ((), ·)) := by
  refine run_bind_kindHolding fun kind => ?_
  rw [run_bind (run_get _)]
  dsimp only
  cases position? (s.fields kind table).length index with
  | none => rfl
  | some i =>
      dsimp only
      rw [run_bind (run_changeFields ..), run_bind (run_get _), fields_withFields]
      cases (s.fields kind table).eraseIdx i with
      | nil =>
          rw [if_pos List.isEmpty_nil, run_drop, withoutTable_withFields]
          rfl
      | cons f fs => rfl

theorem run_merged (s : Session)
    : merged s = settle s (s.merged.map (·, s)) := by
  rw [merged, run_bind (run_get s)]
  cases s.merged <;> rfl

theorem run_commit (s : Session)
    : commit s = settle s (s.commit.map id) := by
  have hm := run_merged s
  rw [commit, Session.commit]
  cases he : s.merged with
  | error e =>
      rw [he] at hm
      rw [run_bind_error hm]
      rfl
  | ok result =>
      rw [he] at hm
      rw [run_bind hm]
      rfl

end InPlace

namespace Workspace

open InPlace

/-- An operation on the session answers what the program on the session does. -/
theorem run_onSession {α β : Type} {program : InPlace α} {outcome : Except Error β}
    {result : β → α × Session} {w : Workspace}
    (h : program w.session = settle w.session (outcome.map result)) (reply : α → Reply)
    : (onSession program >>= fun a => pure (reply a)) w
      = settle w do
          let b ← outcome
          return (reply (result b).1, w.withSession (result b).2) := by
  have hrun : onSession program w
      = settle w ((outcome.map result).map fun r => (r.1, w.withSession r.2)) := by
    rw [onSession, h]
    cases outcome <;> rfl
  cases outcome with
  | error e => exact run_bind_error hrun _
  | ok b => exact run_bind hrun _

/-- Carried out in place, an operation comes to what it means, by cases on the operation: if it is
refused, the workspace is what it was.
-/
theorem run_carryOut (op : Operation) (w : Workspace)
    : carryOut op w = settle w (w.attempt op) := by
  cases op with
  | rename old new kind? => exact run_onSession (run_rename ..) fun _ => .done
  | addTable name? => exact run_onSession (run_addTable ..) .name
  | removeTable name kind? => exact run_onSession (run_removeTable ..) fun _ => .done
  | addField table kind? => exact run_onSession (run_addField ..) .index
  | changeField table i edit kind? => exact run_onSession (run_changeField ..) fun _ => .done
  | removeField table i kind? => exact run_onSession (run_removeField ..) fun _ => .done
  | merge => exact run_onSession (run_merged _) .merged
  | commit => exact run_onSession (run_commit _) .schema
  | snapshot => rfl
  | restore number =>
      rw [carryOut, run_bind (run_get w), attempt]
      cases (position? w.snapshots.length number).bind (w.snapshots[·]?) <;> rfl

end Workspace
end SchemaMarkup
