import SchemaMarkup.Additions.Basic
import SchemaMarkup.Schema.Json

/-! Additions as JSON. -/

namespace SchemaMarkup

/-- Additions as a JSON object: the tables of each kind, then the descriptions. -/
def Additions.toJson (c : Additions) : Json :=
  let member (s : AdditionKind) : String × Json :=
    (s.name, .object ((c.entries s).entries.map fun (name, fields) =>
      (name, .array (fields.map Field.toJson))))
  .object (AdditionKind.all.map member ++ [
    ("table_descriptions", .object (c.descriptions.entries.map fun (name, text) =>
      (name, .string text)))])

end SchemaMarkup
