import Std.Data.HashMap
import SchemaMarkup.Sql.Library
import SchemaMarkup.Sql.Order
import SchemaMarkup.Text.Order

/-! Tables in creation order. Every key has to lead somewhere before they are put in order. -/

namespace SchemaMarkup.Sql

/-- The fault of a foreign key: its table is missing, or the table lacks its column. -/
def keyFault? (tables : List SqlTable) (table column : String) (k : KeyTarget)
    : Option Error :=
  match tables.find? (·.name = k.table) with
  | none => some (.keyTableMissing table column k.table k.column)
  | some target =>
    if target.columns.any (·.name = k.column) then none
    else some (.keyColumnMissing table k.table k.column)

/-- The other tables that a table refers to. -/
def SqlTable.dependencies (t : SqlTable) : List String :=
  (t.columns.flatMap fun c => c.keys.map KeyTarget.table).filter (· ≠ t.name)

/-- The tables in creation order, unless a foreign key leads nowhere. -/
def arrange (tables : List SqlTable) : Except Error (List SqlTable) :=
  let sorted := (Text.sorted (tables.map SqlTable.name)).filterMap fun n =>
    tables.find? (·.name = n)
  let fault := sorted.findSome? fun t => t.columns.findSome? fun c =>
    c.keys.findSome? (keyFault? tables t.name c.name)
  match fault with
  | some e => .error e
  | none =>
    let keyed := Std.HashMap.ofList (sorted.map fun t => (t.name, t.dependencies))
    let dependencies (n : String) : List String := keyed.getD n []
    .ok ((creationOrder dependencies (sorted.map SqlTable.name)).filterMap fun n =>
      tables.find? (·.name = n))

end SchemaMarkup.Sql
