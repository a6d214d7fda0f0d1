import SchemaMarkup.Markup.Fragment
import SchemaMarkup.Merge.Basic

/-! An editing session: the changes that a proposal makes to a base schema, under revision.
Tables may be renamed on the way, and a name that was given up stays reserved for the table
that had it.
-/

namespace SchemaMarkup

/-- Everything one round of editing needs. -/
structure Session where
  base : Schema
  proposal : Schema
  /-- The additions as edited so far. -/
  changes : Additions := {}
  /-- The current name of every table that was renamed, by each of its earlier names. -/
  renames : Renames := {}
  /-- The order in which the tables of the changes are shown and merged. -/
  order : DisplayOrder := {}
deriving DecidableEq, Repr, Inhabited

namespace DisplayOrder

/-- The order of the tables of one kind. -/
def names (o : DisplayOrder) : AdditionKind → List String
  | .newTables => o.newTables
  | .newFields => o.newFields

/-- The order with that of one kind replaced. -/
def withNames (o : DisplayOrder) (s : AdditionKind) (names : List String) : DisplayOrder :=
  match s with
  | .newTables => { o with newTables := names }
  | .newFields => { o with newFields := names }

/-- Replacing the order of a kind shows in that kind alone, case by case. -/
@[simp]
theorem names_withNames (o : DisplayOrder) (s s' : AdditionKind) (names : List String)
    : (o.withNames s names).names s' = if s = s' then names else o.names s' := by
  cases s <;> cases s' <;> rfl

end DisplayOrder

namespace Session

/-- A session on what a proposal adds to a base schema. -/
def start (base proposal : Schema) : Session :=
  let changes := Additions.between base proposal
  { base, proposal, changes, order := ⟨changes.newTables.keys, changes.newFields.keys⟩ }

/-- A session on two schema texts, of which the second may come inside a code fence. -/
def ofTexts (base proposal : String) : Except Error Session := do
  let base ← Schema.ofText base
  let proposal ← Schema.ofText (Markup.withoutFence proposal)
  return start base proposal

/-- The names of the base tables as they will be emitted. -/
def baseNames (s : Session) : List String :=
  s.base.tableNames.map s.renames.current

/-- Every table name that a merge could emit. -/
def liveNames (s : Session) : List String :=
  s.baseNames ++ s.changes.tableNames

/-- The names that other tables than the given one have given up. -/
def givenUpNames (s : Session) (exempt : Option String) : List String :=
  (s.renames.entries.filter fun e => decide (some e.2 ≠ exempt)).map Prod.fst

/-- The names that a new table cannot take, or that the table to be renamed cannot. -/
def reservedNames (s : Session) (exempt : Option String) : List String :=
  s.liveNames ++ s.givenUpNames exempt

/-- The kind of additions in which a table is to be edited: the one asked for, or the one in
which it occurs. The table has to occur in it.
-/
def kindHolding (s : Session) (table : String) (kind? : Option AdditionKind)
    : Except Error AdditionKind :=
  match kind?.or (s.changes.kindOf? table) with
  | none => .error (.unknownTable table)
  | some kind =>
    if (s.changes.entries kind).contains table then .ok kind else .error (.unknownTable table)

/-- The merge that the session stands for. -/
def mergeRequest (s : Session) : MergeRequest where
  base := s.base
  proposal := s.proposal
  changes := s.changes
  renames := s.renames
  order := s.order

/-- The result of merging the changes as they are. -/
def merged (s : Session) : Except Error Merged :=
  s.mergeRequest.merged

end Session
end SchemaMarkup
