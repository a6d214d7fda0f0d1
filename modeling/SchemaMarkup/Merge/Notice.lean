import SchemaMarkup.Schema.Basic

/-! What a merge recovers from, for the reader of its result. -/

namespace SchemaMarkup

/-- A condition that a merge has recovered from. -/
inductive MergeNotice where
  /-- An inline reference to a table that is not there was dropped. -/
  | inlineRefDropped (table field target : String)
  /-- A reference with an end that is not there was dropped. -/
  | refDropped (ref : Ref)
  /-- A table that is not there was dropped from a group. -/
  | memberDropped (table group : String)
  /-- A field got a primitive type although a table or another type may be meant. -/
  | typeAmbiguous (table field type resolved : String)
deriving DecidableEq, Repr, Inhabited

namespace MergeNotice

/-- The kind of a warning. -/
def kind : MergeNotice → String
  | inlineRefDropped .. | refDropped .. => "dangling_ref_dropped"
  | memberDropped .. => "orphan_group_member_dropped"
  | typeAmbiguous .. => "ambiguous_relation_inference"

/-- The words of a warning. -/
def message : MergeNotice → String
  | inlineRefDropped table field target =>
    "Dropped inline ref on " ++ table ++ "." ++ field ++ " to missing table " ++ target
  | refDropped r =>
    "Dropped ref " ++ r.sourceTable ++ "." ++ r.sourceField ++ " "
      ++ String.singleton r.cardinality.symbol ++ " " ++ r.targetTable ++ "." ++ r.targetField
  | memberDropped table group => "Dropped " ++ table ++ " from group " ++ group
  | typeAmbiguous table field type resolved =>
    "No table found for " ++ table ++ "." ++ field ++ " (" ++ type ++ "), using " ++ resolved

end MergeNotice
end SchemaMarkup
