import SchemaMarkup.Distinct
import SchemaMarkup.Merge.Rename
import SchemaMarkup.Merge.Notice

/-! Groups after a merge: members follow the names of their tables, tables that are gone are
dropped, and every group gains the tables that the merge has created or changed.
-/

namespace SchemaMarkup

namespace TableGroup

/-- The members of a group that are among the available tables, each table once under its
current name.
-/
def survivors (g : TableGroup) (available : List String) (m : Renames) : List Member :=
  let renamed := g.members.map fun e => { e with table := m.current e.table }
  distinctBy Member.table [] (renamed.filter fun e => decide (e.table ∈ available))

/-- The group against the available tables, with the touched ones added to it. -/
def rebuild (g : TableGroup) (available touched : List String) (m : Renames) : TableGroup :=
  let kept := g.survivors available m
  let listed := kept.map Member.table
  let added := touched.eraseDups.filter fun t => t ∈ available && t ∉ listed
  { g with members := kept ++ added.map (⟨·, none⟩) }

/-- The warnings about the members of a group that are gone. -/
def orphans (g : TableGroup) (available : List String) (m : Renames) : List MergeNotice :=
  g.members.filterMap fun e =>
    if m.current e.table ∈ available then none else some (.memberDropped e.table g.name)

end TableGroup

/-- The schema with a group added, in place of any group of the same name. Members that are
no tables of the schema are left out.
-/
def Schema.addGroup (s : Schema) (g : TableGroup) : Schema :=
  let group := { g with members := g.members.filter fun e => s.declares e.table }
  { s with groups := s.groups.filter (·.name ≠ g.name) ++ [group] }

end SchemaMarkup
