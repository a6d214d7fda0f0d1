import SchemaMarkup.OrderedMap
import SchemaMarkup.Schema.Basic

/-! Pending additions to a schema: tables it lacks, and fields that its tables lack. -/

namespace SchemaMarkup

/-- The two kinds of addition. -/
inductive AdditionKind where
  | newTables
  | newFields
deriving DecidableEq, Repr, Inhabited

namespace AdditionKind

/-- The name under which all additions of a kind are listed. -/
def name : AdditionKind → String
  | newTables => "new_tables"
  | newFields => "new_fields"

/-- The name under which the additions to one table are listed. -/
def entryName : AdditionKind → String
  | newTables => "new_table"
  | newFields => "new_fields"

/-- Both kinds in the order in which they are shown. -/
def all : List AdditionKind :=
  [newTables, newFields]

end AdditionKind

/-- Additions that wait to be merged into a base schema, and descriptions of the tables
concerned.
-/
structure Additions where
  /-- Tables absent from the base, with their fields. -/
  newTables : OrderedMap String (List Field) := {}
  /-- Tables of the base, with the fields to be added to them. -/
  newFields : OrderedMap String (List Field) := {}
  /-- What the tables of both kinds are for. -/
  descriptions : OrderedMap String String := {}
deriving DecidableEq, Repr, Inhabited

namespace Additions

/-- The additions of one kind, by their tables. -/
def entries (c : Additions) : AdditionKind → OrderedMap String (List Field)
  | .newTables => c.newTables
  | .newFields => c.newFields

/-- The additions with those of one kind replaced. -/
def withEntries (c : Additions) (s : AdditionKind) (es : OrderedMap String (List Field))
    : Additions :=
  match s with
  | .newTables => { c with newTables := es }
  | .newFields => { c with newFields := es }

/-- Whether nothing is to be added. -/
def isEmpty (c : Additions) : Bool :=
  c.newTables.isEmpty && c.newFields.isEmpty

/-- The kind of additions in which a table occurs, new tables first. -/
def kindOf? (c : Additions) (table : String) : Option AdditionKind :=
  AdditionKind.all.find? fun s => (c.entries s).contains table

/-- The tables of both kinds, new tables first. -/
def tableNames (c : Additions) : List String :=
  c.newTables.keys ++ c.newFields.keys.filter fun name => !c.newTables.contains name

/-- Replacing the additions of a kind shows in that kind alone, case by case. -/
@[simp]
theorem entries_withEntries (c : Additions) (s s' : AdditionKind)
    (es : OrderedMap String (List Field))
    : (c.withEntries s es).entries s' = if s = s' then es else c.entries s' := by
  cases s <;> cases s' <;> rfl

end Additions
end SchemaMarkup
