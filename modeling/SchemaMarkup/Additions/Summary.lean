import SchemaMarkup.Additions.Basic

/-! The additions at a glance, one row per table. -/

namespace SchemaMarkup

/-- A table with additions: which kind, how many fields, and what the table is for. -/
structure SummaryRow where
  name : String
  kind : AdditionKind
  fieldCount : Nat
  description : String
deriving DecidableEq, Repr, Inhabited

/-- One row per table, new tables first. -/
def Additions.summary (c : Additions) : List SummaryRow :=
  AdditionKind.all.flatMap fun s => (c.entries s).entries.map fun (name, fields) =>
    ⟨name, s, fields.length, c.descriptions.getD name ""⟩

end SchemaMarkup
