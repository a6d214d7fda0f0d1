import SchemaMarkup.Error
import SchemaMarkup.Text.Search

/-! What several table names have in common: the run of underscore-separated parts that ends
all of them, from which a name for their union is suggested.
-/

namespace SchemaMarkup

/-- The longest list that starts both lists. -/
def commonStart {α : Type} [DecidableEq α] : List α → List α → List α
  | a :: as, b :: bs => if a = b then a :: commonStart as bs else []
  | _, _ => []

/-- The parts of a name between its underscores. -/
def nameParts (name : String) : List String :=
  Text.splitOn '_' name

/-- The longest run of parts that ends every name, joined again. Fewer than two names have
none in common, and neither have names of which it is empty.
-/
def sharedEnding? : List String → Option String
  | first :: second :: rest =>
    let reversed (name : String) := (nameParts name).reverse
    let common := (second :: rest).foldl (fun parts name => commonStart parts (reversed name))
      (reversed first)
    match "_".intercalate common.reverse with
    | "" => none
    | suffix => some suffix
  | _ => none

/-- The suggested name of one table that replaces several. -/
def nameForUnion (names : List String) : Except Error String :=
  match sharedEnding? names, names with
  | some suffix, _ => .ok suffix
  | none, first :: _ => .ok ("consolidated_" ++ first)
  | none, [] => .error .indexOutOfRange

end SchemaMarkup
