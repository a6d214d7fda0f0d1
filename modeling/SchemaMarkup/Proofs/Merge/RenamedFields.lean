import SchemaMarkup.Proofs.Markup.InlineRefs
import SchemaMarkup.Proofs.OrderedMap

/-! Renaming tables in a field. A constraint that is an inline reference is written anew if its
table has another name now, and is then read as a reference to the table of that name; all other
constraints stay as they are. So the table that a field refers to is renamed like any other.
-/

namespace SchemaMarkup

open Markup OrderedMap

/-- A constraint that refers to no renamed table is left alone. -/
theorem renameConstraint_eq_self {m : Renames} {c : String}
    (apart : ∀ r, InlineRef.ofConstraint? c = some r → r.target ∉ m.keys)
    : renameConstraint m c = c := by
  rw [renameConstraint]
  cases hr : InlineRef.ofConstraint? c with
  | none => rfl
  | some r =>
      have unknown : m.get? r.target = none := get?_eq_none_iff.mpr (apart r hr)
      simp only [unknown]

/-- Renaming tables in a constraint renames the table that it refers to. -/
theorem target_renameConstraint {m : Renames} (names : ∀ table ∈ m.values, IsName table)
    (c : String)
    : (InlineRef.ofConstraint? (renameConstraint m c)).map InlineRef.target
      = ((InlineRef.ofConstraint? c).map InlineRef.target).map m.current := by
  rw [renameConstraint]
  cases hr : InlineRef.ofConstraint? c with
  | none => simp [hr]
  | some r =>
      cases ht : m.get? r.target with
      | none => simp [hr, ht, Renames.current, getD]
      | some table =>
          have name := names table (mem_values.mpr ⟨_, get?_eq_some_iff.mp ht⟩)
          have read := InlineRef.ofConstraint?_retarget_isName
            (InlineRef.written_of_ofConstraint? hr).2 name
          have leads : m.current r.target = table := by rw [Renames.current, getD, ht]; rfl
          simp only [ht, read, Option.map_some]
          rw [leads, InlineRef.target, readName_writeName]

theorem Field.inlineTarget?_rename {m : Renames} (names : ∀ table ∈ m.values, IsName table)
    (f : Field)
    : (f.rename m).inlineTarget? = f.inlineTarget?.map m.current := by
  rw [Field.inlineTarget?, Field.inlineTarget?, List.map_findSome?, Field.rename,
    List.findSome?_map]
  simp only [Function.comp_def, target_renameConstraint names]

/-- Renaming tables in a field commutes with reading its inline reference, whatever its constraints
look like, as long as the new names can be put between double quotes; and it leaves constraints that
refer to no renamed table where and as they are.
-/
theorem Field.rename_follows_inline_refs {m : Renames}
    (names : ∀ table ∈ m.values, table ≠ "" ∧ '"' ∉ table.toList) (f : Field)
    : (f.rename m).inlineTarget? = f.inlineTarget?.map m.current
      ∧ (f.rename m).constraints.length = f.constraints.length
      ∧ ∀ (i : Nat) c, f.constraints[i]? = some c →
          (∀ r, InlineRef.ofConstraint? c = some r → r.target ∉ m.keys) →
          (f.rename m).constraints[i]? = some c := by
  refine ⟨f.inlineTarget?_rename fun table ht => ⟨(names table ht).1, (names table ht).2⟩, ?_, ?_⟩
  · exact List.length_map _
  · intro i c hc apart
    rw [Field.rename, List.getElem?_map, hc, Option.map_some, renameConstraint_eq_self apart]

/-- A field with inline references in several spellings, and constraints that only resemble them. -/
def membership : Field where
  name := "member"
  type := "old users"
  constraints := ["not null", "my ref: > posts.id", " REF :  <\"old users\".\"_id\"\t",
    "ref: > posts.id", "ref: - teams.id"]

/-- New names of tables, one of which has to be quoted. -/
def reorganization : Renames :=
  .ofList [("old users", "people, etc."), ("posts", "entries")]

/-- The first of the references leads to a table whose new name has to be quoted. -/
theorem Field.rename_follows_inline_refs_membership
    : (∀ table ∈ reorganization.values, table ≠ "" ∧ '"' ∉ table.toList)
      ∧ (membership.rename reorganization).constraints
        = ["not null", "my ref: > posts.id", "ref: < \"people, etc.\".\"_id\"", "ref: > entries.id",
          "ref: - teams.id"]
      ∧ membership.inlineTarget? = some "old users"
      ∧ (membership.rename reorganization).inlineTarget?
        = membership.inlineTarget?.map reorganization.current
      ∧ (membership.rename reorganization).constraints.length = membership.constraints.length
      ∧ (membership.rename reorganization).constraints[4]? = some "ref: - teams.id" :=
  have names : ∀ table ∈ reorganization.values, table ≠ "" ∧ '"' ∉ table.toList := by
    decide +kernel
  have apart : ∀ r, InlineRef.ofConstraint? "ref: - teams.id" = some r →
      r.target ∉ reorganization.keys := by
    decide +kernel
  have follows := membership.rename_follows_inline_refs names
  ⟨names, by decide +kernel, by decide +kernel, follows.1, follows.2.1, follows.2.2 4 _ rfl apart⟩

end SchemaMarkup
