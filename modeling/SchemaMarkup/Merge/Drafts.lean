import SchemaMarkup.Merge.Request

/-! The tables of a merge before their types are settled: tables that the changes create, then
tables of the base that the changes extend, then the other tables of the base under their
current names.
-/

namespace SchemaMarkup

open Text

/-- A table to be emitted, and the names of its fields that come from the changes; a table
that the changes do not concern has none to be settled.
-/
structure Draft where
  table : Table
  pending : Option (List String) := none
deriving DecidableEq, Repr, Inhabited

/-- The name under which a draft is emitted. -/
def Draft.name (d : Draft) : String :=
  d.table.name

namespace MergeRequest

/-- Fields that can be written out, following the names of renamed tables. -/
def writable (r : MergeRequest) (fields : List Field) : List Field :=
  (fields.filter (!·.isIncomplete)).map (Field.rename r.renames)

/-- A table of a schema under an earlier name, if it has one there, or under its own. -/
def declaration? (r : MergeRequest) (s : Schema) (name : String) : Option Table :=
  (r.renames.earlier name ++ [name]).findSome? s.table?

-----------------------------------------------------------------------------------------
-- Tables that the changes create
-----------------------------------------------------------------------------------------

/-- The draft of a table that the changes create; a table without a name or without fields
is left out.
-/
def createdDraft? (r : MergeRequest) (name : String) : Option Draft :=
  if isBlankText name then none
  else match r.writable (r.changes.newTables.getD name []) with
    | [] => none
    | f :: fs => some {
        table :=
          { name, fields := distinctFields (f :: fs), note := r.changes.descriptions.get? name }
        pending := some ((f :: fs).map Field.name) }

/-- The tables that the changes create. -/
def createdDrafts (r : MergeRequest) : List Draft :=
  (listedFirst r.changes.newTables.keys r.order.newTables).filterMap r.createdDraft?

-----------------------------------------------------------------------------------------
-- Tables that the changes extend
-----------------------------------------------------------------------------------------

/-- The fields that an extended table has before it is extended: those of the proposal that
the base has too, or the fields of whichever of the two declares the table.
-/
def earlierFields (r : MergeRequest) (name : String) (added : List Field) : List Field :=
  match r.declaration? r.base name, r.declaration? r.proposal name with
  | some old, some new => new.fields.filter fun f => old.declares f.name
  | some old, none => old.fields
  | none, some new => new.fields.filter fun f => decide (f.name ∉ added.map Field.name)
  | none, none => []

/-- The note of an extended table: its description, else its note in the proposal, else its
note in the base.
-/
def extendedNote (r : MergeRequest) (name : String) : Option String :=
  let note (s : Schema) := Text.nonempty? ((r.declaration? s name).bind Table.note)
  (Text.nonempty? (r.changes.descriptions.get? name)).or ((note r.proposal).or (note r.base))

/-- The draft of a table that the changes extend. -/
def extendedDraft (r : MergeRequest) (name : String) : Draft :=
  let added := r.changes.newFields.getD name []
  { table :=
      { name
        fields := distinctFields (r.writable (r.earlierFields name added) ++ r.writable added)
        note := r.extendedNote name }
    pending := some (added.map Field.name) }

/-- The tables that the changes extend, without blank names and those created already. -/
def extendedDrafts (r : MergeRequest) (created : List Draft) : List Draft :=
  let names := (listedFirst r.changes.newFields.keys r.order.newFields).filter fun name =>
    !isBlankText name && decide (name ∉ created.map Draft.name)
  names.map r.extendedDraft

-----------------------------------------------------------------------------------------
-- Tables that the changes do not concern
-----------------------------------------------------------------------------------------

/-- The draft of a base table that the changes do not concern. A table is left out if another
one has been renamed to its name while it kept that name itself.
-/
def keptDraft? (r : MergeRequest) (t : Table) : Option Draft :=
  let name := r.renames.current t.name
  if name ∈ r.changes.tableNames then none
  -- Another table has taken this one's name, and this one was given no other.
  else if t.name ∈ r.renames.values ∧ t.name ∉ r.renames.keys then none
  else some { table := { t with name, fields := t.fields.map (Field.rename r.renames) } }

/-- The base tables that the changes do not concern, each current name once. -/
def keptDrafts (r : MergeRequest) (before : List Draft) : List Draft :=
  distinctBy Draft.name (before.map Draft.name) (r.base.distinctTables.filterMap r.keptDraft?)

/-- All tables to be emitted, in order. -/
def drafts (r : MergeRequest) : List Draft :=
  let created := r.createdDrafts
  let changed := created ++ r.extendedDrafts created
  changed ++ r.keptDrafts changed

end MergeRequest
end SchemaMarkup
