import SchemaMarkup.Additions.Summary
import SchemaMarkup.Session.Edit

/-! Editing histories: a session together with the copies saved of it, and the operations that
a user may carry out one after another. A refused operation leaves everything as it was.
-/

namespace SchemaMarkup

/-- One operation of a user. -/
inductive Operation where
  | rename (old new : String) (kind? : Option AdditionKind)
  | addTable (name? : Option String)
  | removeTable (name : String) (kind? : Option AdditionKind)
  | addField (table : String) (kind? : Option AdditionKind)
  | changeField (table : String) (index : Int) (edit : FieldEdit) (kind? : Option AdditionKind)
  | removeField (table : String) (index : Int) (kind? : Option AdditionKind)
  | merge
  | commit
  | snapshot
  | restore (number : Int)
deriving DecidableEq, Repr

/-- What an operation answers. -/
inductive Reply where
  | done
  | name (name : String)
  | index (index : Nat)
  | merged (result : Merged)
  | schema (schema : Schema)
deriving DecidableEq, Repr

/-- A session and the copies saved of it, the oldest first. -/
structure Workspace where
  session : Session
  snapshots : List Session := []
deriving DecidableEq, Repr

namespace Workspace

/-- The workspace with another current session. -/
def withSession (w : Workspace) (s : Session) : Workspace :=
  { w with session := s }

/-- What an operation answers and the workspace after it, unless it is refused. -/
def attempt (w : Workspace) : Operation → Except Error (Reply × Workspace)
  | .rename old new kind => do
    let s ← w.session.rename old new kind
    return (.done, w.withSession s)
  | .addTable name => do
    let (name, s) ← w.session.addTable name
    return (.name name, w.withSession s)
  | .removeTable name kind => do
    let s ← w.session.removeTable name kind
    return (.done, w.withSession s)
  | .addField table kind => do
    let (i, s) ← w.session.addField table kind
    return (.index i, w.withSession s)
  | .changeField table i edit kind => do
    let s ← w.session.changeField table i edit kind
    return (.done, w.withSession s)
  | .removeField table i kind => do
    let s ← w.session.removeField table i kind
    return (.done, w.withSession s)
  | .merge => do
    let result ← w.session.merged
    return (.merged result, w)
  | .commit => do
    let (schema, s) ← w.session.commit
    return (.schema schema, w.withSession s)
  | .snapshot =>
    .ok (.index w.snapshots.length, { w with snapshots := w.snapshots ++ [w.session] })
  | .restore number =>
    match (position? w.snapshots.length number).bind (w.snapshots[·]?) with
    | some s => .ok (.done, w.withSession s)
    | none => .error .indexOutOfRange

/-- The outcome of an operation and the workspace in which the user goes on. -/
def perform (w : Workspace) (op : Operation) : Except Error Reply × Workspace :=
  match w.attempt op with
  | .ok (reply, w) => (.ok reply, w)
  | .error e => (.error e, w)

/-- The workspace after a sequence of operations. -/
def performAll (w : Workspace) (ops : List Operation) : Workspace :=
  ops.foldl (fun w op => (w.perform op).2) w

end Workspace
end SchemaMarkup
