import SchemaMarkup.Session.History

/-! The operations carried out in place. A session is written to part by part and loop by loop,
each check stands where it is made, and what was written before a check fails stays written.
-/

namespace SchemaMarkup

/-- A part of a session that is read and written by itself. -/
structure Session.Part (π : Type) where
  read : Session → π
  write : π → Session → Session
  write_read (s : Session) : write (read s) s = s
  read_write (p : π) (s : Session) : read (write p s) = p
  write_write (p q : π) (s : Session) : write p (write q s) = write p s

namespace Session.Part

/-- The additions of one kind. -/
def entries (kind : AdditionKind) : Part (OrderedMap String (List Field)) where
  read s := s.changes.entries kind
  write es s := { s with changes := s.changes.withEntries kind es }
  write_read s := by cases kind <;> rfl
  read_write es s := by cases kind <;> rfl
  write_write es es' s := by cases kind <;> rfl

/-- The order of the tables of one kind. -/
def order (kind : AdditionKind) : Part (List String) where
  read s := s.order.names kind
  write names s := { s with order := s.order.withNames kind names }
  write_read s := by cases kind <;> rfl
  read_write names s := by cases kind <;> rfl
  write_write names names' s := by cases kind <;> rfl

/-- The descriptions of tables. -/
def descriptions : Part (OrderedMap String String) where
  read s := s.changes.descriptions
  write d s := { s with changes.descriptions := d }
  write_read _ := rfl
  read_write _ _ := rfl
  write_write _ _ _ := rfl

/-- The record of renames. -/
def renames : Part Renames where
  read s := s.renames
  write m s := { s with renames := m }
  write_read _ := rfl
  read_write _ _ := rfl
  write_write _ _ _ := rfl

end Session.Part

/-- A program that works on a session and may break off. -/
abbrev InPlace := EStateM Error Session

namespace InPlace

/-- Read one part of the session. -/
def see {π : Type} (part : Session.Part π) : InPlace π := do
  let s ← get
  return part.read s

/-- Change one part of the session. -/
def change {π : Type} (part : Session.Part π) (f : π → π) : InPlace Unit :=
  modify fun s => part.write (f (part.read s)) s

/-- Change the added fields of one table. -/
def changeFields (kind : AdditionKind) (table : String) (f : List Field → List Field)
    : InPlace Unit :=
  change (.entries kind) fun m => m.insert table (f (m.getD table []))

-----------------------------------------------------------------------------------------
-- The edits
-----------------------------------------------------------------------------------------

/-- The kind of additions in which a table is to be edited. -/
def kindHolding (table : String) (kind? : Option AdditionKind) : InPlace AdditionKind := do
  let s ← get
  match kind?.or (s.changes.kindOf? table) with
  | none => throw (.unknownTable table)
  | some kind =>
    if (s.changes.entries kind).contains table then return kind else throw (.unknownTable table)

/-- Take a table from the additions of a kind, from their order and from the descriptions. -/
def drop (kind : AdditionKind) (table : String) : InPlace Unit := do
  change (.entries kind) (·.erase table)
  change (.order kind) (·.filter (· ≠ table))
  change .descriptions (·.erase table)

/-- Rename a table in the additions of a kind: all of them are taken out and put in again. -/
def renameKey (kind : AdditionKind) (old new : String) : InPlace Unit := do
  let entries ← see (.entries kind)
  let renamed := entries.mapKeys fun n => if n = old then new else n
  change (.entries kind) fun _ => {}
  renamed.entries.forM fun e => change (.entries kind) (·.insert e.1 e.2)

/-- Fill an order that lists nothing with the tables there are, but for the renamed one. -/
def fillOrder (kind : AdditionKind) (new : String) : InPlace Unit := do
  let order ← see (.order kind)
  if order.isEmpty then
    let entries ← see (.entries kind)
    entries.keys.forM fun n => if n ≠ new then change (.order kind) (· ++ [n]) else pure ()

/-- Rename a table in the order of a kind, at the end of which it comes if it is not listed. -/
def renameInOrder (kind : AdditionKind) (old new : String) : InPlace Unit := do
  change (.order kind) (·.map fun n => if n = old then new else n)
  let order ← see (.order kind)
  if new ∉ order then change (.order kind) (· ++ [new])

/-- Rename a table in the additions of a kind and in their order. -/
def renameEntry (kind : AdditionKind) (old new : String) : InPlace Unit := do
  renameKey kind old new
  fillOrder kind new
  renameInOrder kind old new

/-- Move the description of a table to its new name. -/
def renameDescription (old new : String) : InPlace Unit := do
  let descriptions ← see .descriptions
  match descriptions.get? old with
  | some text =>
    change .descriptions (·.erase old)
    change .descriptions (·.insert new text)
  | none => pure ()

/-- Record a rename: every name that leads to the old one is sent on, then the old name itself,
and then every name that leads to itself is taken out.
-/
def recordRename (old new : String) : InPlace Unit := do
  let renames ← see .renames
  renames.entries.forM fun e =>
    if e.2 = old then change .renames (·.insert e.1 new) else pure ()
  change .renames (·.insert old new)
  let renames ← see .renames
  renames.entries.forM fun e =>
    if e.1 = e.2 then change .renames (·.erase e.1) else pure ()

/-- Rename a table. The kind that is asked for is looked at last. -/
def rename (old new : String) (kind? : Option AdditionKind) : InPlace Unit := do
  let new := Text.trimmed new
  if new = "" then throw .emptyTableName
  if new = old then return
  let s ← get
  let inChanges := kind?.isSome || (s.changes.kindOf? old).isSome
  if !inChanges && decide (old ∉ s.baseNames) then throw (.unknownTable old)
  if new ∈ s.reservedNames (some old) then throw (.tableNameInUse new)
  if inChanges then
    let kind ← kindHolding old kind?
    renameEntry kind old new
  renameDescription old new
  recordRename old new

/-- Add a table with a key field, under the given name or a provisional one. -/
def addTable (name? : Option String) : InPlace String := do
  let s ← get
  let taken := s.reservedNames none
  let name ← match name? with
    | none => pure (Session.freeName Conventions.standard.fresh.table taken)
    | some name => do
      let name := Text.trimmed name
      if name = "" then throw .emptyTableName
      if name ∈ taken then throw (.tableNameInUse name)
      pure name
  change (.entries .newTables) (·.insert name [Session.firstField])
  change (.order .newTables) (· ++ [name])
  return name

/-- Remove a table from the changes. -/
def removeTable (name : String) (kind? : Option AdditionKind) : InPlace Unit := do
  let kind ← kindHolding name kind?
  drop kind name

/-- Add a provisional field to a table; the result is its index, which is counted afterwards. -/
def addField (table : String) (kind? : Option AdditionKind) : InPlace Nat := do
  let kind ← kindHolding table kind?
  changeFields kind table (· ++ [Session.freshField])
  let s ← get
  return (s.fields kind table).length - 1

/-- Edit the field at an index. -/
def changeField (table : String) (index : Int) (edit : FieldEdit) (kind? : Option AdditionKind)
    : InPlace Unit := do
  let kind ← kindHolding table kind?
  let s ← get
  match position? (s.fields kind table).length index with
  | none => throw .indexOutOfRange
  | some i => changeFields kind table (·.modify i edit.apply)

/-- Remove the field at an index, and then the table if it has no other. -/
def removeField (table : String) (index : Int) (kind? : Option AdditionKind)
    : InPlace Unit := do
  let kind ← kindHolding table kind?
  let s ← get
  match position? (s.fields kind table).length index with
  | none => throw .deletedIndexOutOfRange
  | some i =>
    changeFields kind table (·.eraseIdx i)
    let s ← get
    if (s.fields kind table).isEmpty then drop kind table

/-- The result of merging the changes as they are. -/
def merged : InPlace Merged := do
  let s ← get
  match s.merged with
  | .ok result => return result
  | .error e => throw e

/-- Make the merged schema the base, and start over part by part. -/
def commit : InPlace Schema := do
  let result ← merged
  modify fun s => { s with base := result.schema, proposal := result.schema }
  modify fun s => { s with changes := {} }
  change .renames fun _ => {}
  change (.order .newTables) fun _ => []
  change (.order .newFields) fun _ => []
  return result.schema

end InPlace

namespace Workspace

/-- Carry out a program on the session of a workspace. -/
def onSession {α : Type} (program : InPlace α) : EStateM Error Workspace α := fun w =>
  match program w.session with
  | .ok a s => .ok a (w.withSession s)
  | .error e s => .error e (w.withSession s)

/-- Carry out an operation in place. -/
def carryOut : Operation → EStateM Error Workspace Reply
  | .rename old new kind? => do
    onSession (InPlace.rename old new kind?)
    return .done
  | .addTable name? => do
    let name ← onSession (InPlace.addTable name?)
    return .name name
  | .removeTable name kind? => do
    onSession (InPlace.removeTable name kind?)
    return .done
  | .addField table kind? => do
    let i ← onSession (InPlace.addField table kind?)
    return .index i
  | .changeField table i edit kind? => do
    onSession (InPlace.changeField table i edit kind?)
    return .done
  | .removeField table i kind? => do
    onSession (InPlace.removeField table i kind?)
    return .done
  | .merge => do
    let result ← onSession InPlace.merged
    return .merged result
  | .commit => do
    let schema ← onSession InPlace.commit
    return .schema schema
  | .snapshot => do
    let w ← get
    set { w with snapshots := w.snapshots ++ [w.session] }
    return .index w.snapshots.length
  | .restore number => do
    let w ← get
    match (position? w.snapshots.length number).bind (w.snapshots[·]?) with
    | some s =>
      set (w.withSession s)
      return .done
    | none => throw .indexOutOfRange

end Workspace
end SchemaMarkup
