import SchemaMarkup.Session.Basic

/-! The edits of a session. An edit either succeeds with a new session or is refused, and then
there is no new session to speak of.
-/

namespace SchemaMarkup

/-- The position that an index means in a list of a given length; negative indices count from
the end.
-/
def position? (length : Nat) (index : Int) : Option Nat :=
  let i := if index < 0 then index + length else index
  if 0 ≤ i ∧ i < length then some i.toNat else none

/-- What is changed about a field. -/
inductive FieldEdit where
  | name (value : String)
  | type (value : String)
  /-- The empty description takes the note away. -/
  | description (value : String)
  /-- Nothing is changed. -/
  | nothing
deriving DecidableEq, Repr, Inhabited

/-- A field after an edit. -/
def FieldEdit.apply (e : FieldEdit) (f : Field) : Field :=
  match e with
  | name value => { f with name := value }
  | type value => { f with type := value }
  | description value => { f with note := Text.nonempty? (some value) }
  | nothing => f

namespace Session

-----------------------------------------------------------------------------------------
-- Replacing and forgetting the additions to one table
-----------------------------------------------------------------------------------------

/-- The session with the added fields of one table replaced. -/
def withFields (s : Session) (kind : AdditionKind) (table : String) (fields : List Field)
    : Session :=
  { s with changes := s.changes.withEntries kind ((s.changes.entries kind).insert table fields) }

/-- The added fields of a table. -/
def fields (s : Session) (kind : AdditionKind) (table : String) : List Field :=
  (s.changes.entries kind).getD table []

/-- The session without the additions to a table. -/
def withoutTable (s : Session) (kind : AdditionKind) (table : String) : Session :=
  let changes := s.changes.withEntries kind ((s.changes.entries kind).erase table)
  { s with
    changes := { changes with descriptions := changes.descriptions.erase table }
    order := s.order.withNames kind ((s.order.names kind).filter (· ≠ table)) }

-----------------------------------------------------------------------------------------
-- Renaming leaves a table at its place in every list
-----------------------------------------------------------------------------------------

/-- The order of tables after one of them was renamed; an order that lists nothing starts with
the tables there are.
-/
def renamedOrder (order keys : List String) (old new : String) : List String :=
  let listed := if order.isEmpty then keys.filter (· ≠ new) else order
  let renamed := listed.map fun n => if n = old then new else n
  if new ∈ renamed then renamed else renamed ++ [new]

/-- The session with the additions to a table under its new name at their old place. -/
def withRenamedEntry (s : Session) (kind : AdditionKind) (old new : String) : Session :=
  let entries := (s.changes.entries kind).mapKeys fun n => if n = old then new else n
  { s with
    changes := s.changes.withEntries kind entries
    order := s.order.withNames kind (renamedOrder (s.order.names kind) entries.keys old new) }

/-- The descriptions with that of a renamed table under its new name. -/
def renamedDescriptions (d : OrderedMap String String) (old new : String)
    : OrderedMap String String :=
  match d.get? old with
  | some text => (d.erase old).insert new text
  | none => d

/-- The renames after another one: earlier names of the table lead to the new name, and no
name leads to itself.
-/
def recordRename (m : Renames) (old new : String) : Renames :=
  ((m.mapValues fun _ current => if current = old then new else current).insert old new).filter
    fun k current => decide (k ≠ current)

/-- Rename a table of the changes or of the base. The new name must not be in use, nor given
up by another table.
-/
def rename (s : Session) (old new : String) (kind? : Option AdditionKind)
    : Except Error Session := do
  let new := Text.trimmed new
  if new = "" then throw .emptyTableName
  if new = old then return s
  let inChanges := kind?.isSome || (s.changes.kindOf? old).isSome
  if !inChanges && decide (old ∉ s.baseNames) then throw (.unknownTable old)
  if new ∈ s.reservedNames (some old) then throw (.tableNameInUse new)
  let s ← if inChanges then do
      let kind ← s.kindHolding old kind?
      pure (s.withRenamedEntry kind old new)
    else pure s
  return { s with
    changes :=
      { s.changes with descriptions := renamedDescriptions s.changes.descriptions old new }
    renames := recordRename s.renames old new }

-----------------------------------------------------------------------------------------
-- A new table takes a free name
-----------------------------------------------------------------------------------------

/-- The provisional name of a given number: the bare one first. -/
def freshName (stem : String) : Nat → String
  | 0 => stem
  | n + 1 => stem ++ "_" ++ toString (n + 1)

/-- The first provisional name that is not taken. One of the names up to the number of taken
ones is free, since they differ.
-/
def freeName (stem : String) (taken : List String) : String :=
  -- More names are tried than are taken, so one of them is free.
  let names := (List.range (taken.length + 1)).map (freshName stem)
  (names.find? fun n => decide (n ∉ taken)).getD stem

/-- The name of a table to be added: the given one if it is free, or a provisional one. -/
def nameToAdd (s : Session) : Option String → Except Error String
  | none => .ok (freeName Conventions.standard.fresh.table (s.reservedNames none))
  | some name =>
    let name := Text.trimmed name
    if name = "" then .error .emptyTableName
    else if name ∈ s.reservedNames none then .error (.tableNameInUse name)
    else .ok name

/-- The key field that a new table starts with. -/
def firstField : Field where
  name := Conventions.standard.keys.main
  type := Primitive.unique.name
  note := some Conventions.standard.fresh.tableNote

/-- Add a new table with a key field; the result comes with its name. -/
def addTable (s : Session) (name? : Option String) : Except Error (String × Session) := do
  let name ← s.nameToAdd name?
  let s := s.withFields .newTables name [firstField]
  return (name, { s with order := { s.order with newTables := s.order.newTables ++ [name] } })

/-- Remove a table from the changes. -/
def removeTable (s : Session) (name : String) (kind? : Option AdditionKind)
    : Except Error Session := do
  let kind ← s.kindHolding name kind?
  return s.withoutTable kind name

-----------------------------------------------------------------------------------------
-- Fields are found by their position in the additions
-----------------------------------------------------------------------------------------

/-- The field that is added to a table until it is edited. -/
def freshField : Field where
  name := Conventions.standard.fresh.field
  type := Conventions.standard.fresh.fieldType

/-- Add a provisional field at the end of a table; the result comes with its index. -/
def addField (s : Session) (table : String) (kind? : Option AdditionKind)
    : Except Error (Nat × Session) := do
  let kind ← s.kindHolding table kind?
  let fields := s.fields kind table
  return (fields.length, s.withFields kind table (fields ++ [freshField]))

/-- Edit the field at an index. -/
def changeField (s : Session) (table : String) (index : Int) (edit : FieldEdit)
    (kind? : Option AdditionKind) : Except Error Session := do
  let kind ← s.kindHolding table kind?
  let fields := s.fields kind table
  match position? fields.length index with
  | none => throw .indexOutOfRange
  | some i => return s.withFields kind table (fields.modify i edit.apply)

/-- Remove the field at an index; a table without fields leaves the changes. -/
def removeField (s : Session) (table : String) (index : Int) (kind? : Option AdditionKind)
    : Except Error Session := do
  let kind ← s.kindHolding table kind?
  let fields := s.fields kind table
  match position? fields.length index with
  | none => throw .deletedIndexOutOfRange
  | some i =>
    match fields.eraseIdx i with
    | [] => return s.withoutTable kind table
    | f :: fs => return s.withFields kind table (f :: fs)

/-- Commit the merge: the merged schema becomes the base and nothing is pending any more. -/
def commit (s : Session) : Except Error (Schema × Session) := do
  let result ← s.merged
  return (result.schema, { base := result.schema, proposal := result.schema })

end Session
end SchemaMarkup
