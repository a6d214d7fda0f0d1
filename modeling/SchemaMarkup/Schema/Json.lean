import SchemaMarkup.Json
import SchemaMarkup.Schema.Basic

/-! Schemas as JSON. -/

namespace SchemaMarkup

/-- A field as a JSON object. -/
def Field.toJson (f : Field) : Json :=
  .object [
    ("name", .string f.name),
    ("type", .string f.type),
    ("note", .ofOption f.note),
    ("constraints", .array (f.constraints.map .string))]

/-- A table as a JSON object. -/
def Table.toJson (t : Table) : Json :=
  .object [
    ("name", .string t.name),
    ("note", .ofOption t.note),
    ("fields", .array (t.fields.map Field.toJson))]

/-- A reference as a JSON object. -/
def Ref.toJson (r : Ref) : Json :=
  .object [
    ("source_table", .string r.sourceTable),
    ("source_field", .string r.sourceField),
    ("operator", .string (String.singleton r.cardinality.symbol)),
    ("target_table", .string r.targetTable),
    ("target_field", .string r.targetField)]

/-- A member of a group as a JSON object. -/
def Member.toJson (m : Member) : Json :=
  .object [("table", .string m.table), ("comment", .ofOption m.comment)]

/-- A group as a JSON object. -/
def TableGroup.toJson (g : TableGroup) : Json :=
  .object [
    ("name", .string g.name),
    ("color", .ofOption g.color),
    ("note", .ofOption g.note),
    ("members", .array (g.members.map Member.toJson))]

/-- A schema as a JSON object. -/
def Schema.toJson (s : Schema) : Json :=
  .object [
    ("tables", .array (s.tables.map Table.toJson)),
    ("refs", .array (s.refs.map Ref.toJson)),
    ("groups", .array (s.groups.map TableGroup.toJson))]

end SchemaMarkup
