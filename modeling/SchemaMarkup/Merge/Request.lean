import SchemaMarkup.Additions.Difference
import SchemaMarkup.Conventions.Basic
import SchemaMarkup.Merge.Rename
import SchemaMarkup.Merge.Notice

/-! What goes into a merge and what comes out of it. -/

namespace SchemaMarkup

/-- The order in which the tables with additions of each kind are shown and merged. -/
structure DisplayOrder where
  newTables : List String := []
  newFields : List String := []
deriving DecidableEq, Repr, Inhabited

/-- The names in a given order first, and then the others as they come. -/
def listedFirst (names order : List String) : List String :=
  let listed := order.eraseDups.filter fun n => decide (n ∈ names)
  listed ++ names.filter fun n => decide (n ∉ listed)

/-- A merge of changes into a base schema, seen together with the proposal they came from. -/
structure MergeRequest where
  base : Schema
  proposal : Schema
  changes : Additions
  renames : Renames := {}
  order : DisplayOrder := {}
  conventions : Conventions := .standard
deriving DecidableEq, Repr

/-- A merged schema, its text, and what the merge has recovered from. -/
structure Merged where
  schema : Schema
  text : String
  warnings : List MergeNotice
deriving DecidableEq, Repr, Inhabited

end SchemaMarkup
