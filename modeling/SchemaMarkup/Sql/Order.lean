import Std.Data.HashSet

/-! The order in which tables are created: a table comes after those its foreign keys refer
to, as far as that is possible.
-/

namespace SchemaMarkup.Sql

/-- Elements that pass and elements that do not make up the list, so those that do not are
fewer as soon as one passes.
-/
theorem length_filter_not_lt {α : Type} {p : α → Bool} {as : List α}
    (h : as.filter p ≠ [])
    : (as.filter fun a => !p a).length < as.length := by
  obtain ⟨a, ha⟩ := List.exists_mem_of_ne_nil _ h
  have hp := List.mem_filter.mp ha
  refine Nat.lt_of_le_of_ne (List.length_filter_le _ _) ?_
  intro he
  have hall := List.length_filter_eq_length_iff.mp he a hp.1
  simp [hp.2] at hall

/-- Whether a name depends on no name that is waiting. -/
def isReady (dependencies : String → List String) (waiting : Std.HashSet String)
    (name : String) : Bool :=
  (dependencies name).all fun d => !waiting.contains d

/-- The names that depend on no name that is waiting. -/
def readyNames (dependencies : String → List String) (waiting : List String) : List String :=
  waiting.filter (isReady dependencies (.ofList waiting))

/-- The names that depend on a name that is waiting. -/
def heldNames (dependencies : String → List String) (waiting : List String) : List String :=
  let all := Std.HashSet.ofList waiting
  waiting.filter fun n => !isReady dependencies all n

/-- The waiting names in rounds: each round takes all those that depend on no name that is
waiting at its start. There is no such order if every waiting name depends on another.
-/
def rounds? (dependencies : String → List String) (waiting : List String)
    : Option (List String) :=
  if waiting = [] then some []
  else if _ : readyNames dependencies waiting = [] then none
  else
    (rounds? dependencies (heldNames dependencies waiting)).map
      (readyNames dependencies waiting ++ ·)
termination_by waiting.length
decreasing_by exact length_filter_not_lt ‹_›

/-- Whether a name is among pending ones or among those that they depend on, directly or through
others. What has been seen needs no second look. Each step takes one pending name.
-/
def isReached (dependencies : String → List String) (goal : String)
    : Nat → Std.HashSet String → List String → Bool
  | steps + 1, seen, name :: pending =>
    if name = goal then true
    else if seen.contains name then isReached dependencies goal steps seen pending
    else isReached dependencies goal steps (seen.insert name) (dependencies name ++ pending)
  | _, _, _ => false

/-- The names that depend on themselves, directly or through others. -/
def loopedNames (dependencies : String → List String) (names : List String) : List String :=
  -- A name becomes pending at most twice for each dependency, so the steps suffice.
  let steps := 2 * (names.flatMap dependencies).length + 1
  names.filter fun n => isReached dependencies n steps ∅ (dependencies n)

/-- The names in creation order. If dependencies run in a circle, those of the names on a
circle are disregarded.
-/
def creationOrder (dependencies : String → List String) (names : List String) : List String :=
  match rounds? dependencies names with
  | some order => order
  | none =>
    let looped := loopedNames dependencies names
    let remaining (name : String) := if name ∈ looped then [] else dependencies name
    -- Without the names on a circle nothing depends on itself, so the second try succeeds.
    (rounds? remaining names).getD names

end SchemaMarkup.Sql
