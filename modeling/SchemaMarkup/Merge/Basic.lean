import SchemaMarkup.Markup.Document
import SchemaMarkup.Markup.Printer
import SchemaMarkup.Markup.Repeats
import SchemaMarkup.Merge.Groups
import SchemaMarkup.Merge.Resolution
import SchemaMarkup.Relation.Implied

/-! Merging changes into a base schema. Nothing is refused because something it refers to is
missing: references and group members without their tables are dropped with a warning, and
references that field types imply are added.
-/

namespace SchemaMarkup

/-- Whether both tables of a reference and its source field are among the given tables. -/
def Ref.isGrounded (r : Ref) (tables : List Table) : Bool :=
  tables.any (fun t => t.name = r.sourceTable && t.declares r.sourceField)
    && tables.any (·.name = r.targetTable)

namespace MergeRequest

/-- The references of the proposal under current table names. -/
def renamedRefs (r : MergeRequest) : List Ref :=
  r.proposal.refs.map (Ref.rename r.renames)

/-- The references of the merged schema: those of the proposal that have both ends, each
relationship once, and those that field types add.
-/
def mergedRefs (r : MergeRequest) (tables : List Table) : List Ref :=
  let kept := distinctBy (Ref.relationship r.conventions) []
    (r.renamedRefs.filter fun ref => ref.isGrounded tables)
  kept ++ refsOfTypes r.conventions tables kept

/-- The warnings about references without their ends. -/
def refWarnings (r : MergeRequest) (tables : List Table) : List MergeNotice :=
  (r.renamedRefs.filter fun ref => !ref.isGrounded tables).map .refDropped

/-- The groups of the merged schema. -/
def mergedGroups (r : MergeRequest) (tables : List Table) (touched : List String)
    : List TableGroup :=
  r.proposal.groups.map fun g => g.rebuild (tables.map Table.name) touched r.renames

/-- The warnings about group members without their tables. -/
def groupWarnings (r : MergeRequest) (tables : List Table) : List MergeNotice :=
  r.proposal.groups.flatMap fun g => g.orphans (tables.map Table.name) r.renames

/-- The merged schema with its text and warnings. -/
def merged (r : MergeRequest) : Except Error Merged := do
  let drafts := r.drafts
  let resolved ← drafts.mapM (Draft.resolve r.conventions (drafts.map Draft.name))
  let tables := resolved.map Prod.fst
  let touched := (drafts.filter (·.pending.isSome)).map Draft.name
  let schema ← Schema.validate {
    tables
    refs := r.mergedRefs tables
    groups := r.mergedGroups tables touched }
  return {
    schema
    text := Markup.withoutRepeats r.conventions schema.toText
    warnings := resolved.flatMap Prod.snd ++ r.refWarnings tables ++ r.groupWarnings tables }

end MergeRequest
end SchemaMarkup
