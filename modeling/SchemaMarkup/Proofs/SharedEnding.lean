import Mathlib.Data.List.DropRight
import SchemaMarkup.SharedEnding

/-! What several names have in common at their ends. The shared parts are the longest run that ends
every name, so neither the order of the names nor the choice of the one to start from matters, and
growing a run part by part until some name does not end in it comes to the same.
-/

namespace SchemaMarkup

/-- Whether a run of parts ends every name and no longer run does. -/
structure IsLongestEnding (names : List String) (run : List String) : Prop where
  ends : ∀ name ∈ names, run <:+ nameParts name
  longest : ∀ other, (∀ name ∈ names, other <:+ nameParts name) → other.length ≤ run.length

-----------------------------------------------------------------------------------------
-- The runs that end all names are the endings of one of them
-----------------------------------------------------------------------------------------

/-- What starts both lists starts their common start, by induction along both. -/
theorem prefix_commonStart_iff {α : Type} [DecidableEq α] {as bs cs : List α}
    : cs <+: commonStart as bs ↔ cs <+: as ∧ cs <+: bs := by
  fun_induction commonStart as bs generalizing cs with
  | case1 a as bs ih =>
      cases cs with
      | nil => simp
      | cons c cs => simp [List.cons_prefix_cons, ih, and_assoc, and_left_comm]
  | case2 a as b bs different =>
      cases cs with
      | nil => simp
      | cons c cs =>
          simp only [List.cons_prefix_cons, List.prefix_nil, reduceCtorEq, false_iff]
          rintro ⟨⟨rfl, _⟩, rfl, _⟩
          exact different rfl
  | case3 as bs short =>
      cases as with
      | nil => exact (and_iff_left_of_imp fun h => List.prefix_nil.mp h ▸ List.nil_prefix).symm
      | cons a as =>
          cases bs with
          | nil =>
              exact (and_iff_right_of_imp fun h => List.prefix_nil.mp h ▸ List.nil_prefix).symm
          | cons b bs => exact absurd rfl (short a as b bs rfl)

/-- The parts that the names after the first leave of the first one. -/
def sharedParts (first : String) (others : List String) : List String :=
  (others.foldl (fun parts name => commonStart parts (nameParts name).reverse)
    (nameParts first).reverse).reverse

/-- What starts the outcome of narrowing a list down starts that list and all that it is narrowed
down by, by induction on these.
-/
theorem prefix_foldl_commonStart_iff {others : List String} {parts cs : List String}
    : cs <+: others.foldl (fun parts name => commonStart parts (nameParts name).reverse) parts
      ↔ cs <+: parts ∧ ∀ name ∈ others, cs <+: (nameParts name).reverse := by
  induction others generalizing parts with
  | nil => simp
  | cons name others ih =>
      rw [List.foldl_cons, ih, prefix_commonStart_iff, List.forall_mem_cons, and_assoc]

/-- The runs that end the shared parts are those that end every name. -/
theorem suffix_sharedParts_iff {first : String} {others run : List String}
    : run <:+ sharedParts first others ↔ ∀ name ∈ first :: others, run <:+ nameParts name := by
  rw [← List.reverse_prefix, sharedParts, List.reverse_reverse, prefix_foldl_commonStart_iff,
    List.forall_mem_cons]
  simp only [List.reverse_prefix]

/-- Runs with the same endings are the same, since each ends the other. -/
theorem eq_of_same_endings {run other : List String} (h : ∀ parts, parts <:+ run ↔ parts <:+ other)
    : run = other :=
  ((h run).mp List.suffix_rfl).eq_of_length_le ((h other).mpr List.suffix_rfl).length_le

/-- A run of which the endings are the runs that end every name is the only longest one. -/
theorem isLongestEnding_iff_eq {names run : List String}
    (endings : ∀ other, other <:+ run ↔ ∀ name ∈ names, other <:+ nameParts name)
    {other : List String}
    : IsLongestEnding names other ↔ other = run := by
  constructor
  · intro h
    have inside := (endings other).mpr h.ends
    exact inside.eq_of_length_le (h.longest run ((endings run).mp List.suffix_rfl))
  · rintro rfl
    exact ⟨(endings other).mp List.suffix_rfl, fun run h => ((endings run).mpr h).length_le⟩

/-- The shared ending of several names is made of their shared parts. -/
theorem sharedEnding?_eq (first second : String) (rest : List String)
    : sharedEnding? (first :: second :: rest)
      = if "_".intercalate (sharedParts first (second :: rest)) = "" then none
        else some ("_".intercalate (sharedParts first (second :: rest))) := by
  simp only [sharedEnding?]
  split
  · rename_i empty
    exact (if_pos empty).symm
  · rename_i nonempty
    exact (if_neg nonempty).symm

-----------------------------------------------------------------------------------------
-- A run that grows at its front until some name does not end in it
-----------------------------------------------------------------------------------------

/-- The last parts of the first name, of which there are as many as possible from a given number on:
one part is added after the other, as long as all other names have the same last parts.
-/
def grownEnding (first : List String) (others : List (List String)) (size : Nat) : List String :=
  if size < first.length ∧ ∀ parts ∈ others, parts.rtake (size + 1) = first.rtake (size + 1) then
    grownEnding first others (size + 1)
  else first.rtake size
termination_by first.length - size

/-- A list has the last elements of what ends it. -/
theorem rtake_eq_of_suffix {α : Type} {run as : List α} {size : Nat} (h : run <:+ as)
    (long : size ≤ run.length)
    : as.rtake size = run.rtake size := by
  obtain ⟨before, rfl⟩ := h
  have split : (before ++ run).length - size = before.length + (run.length - size) := by
    rw [List.length_append]
    omega
  rw [List.rtake, List.rtake, split, List.drop_length_add_append]

/-- A grown run, if what it grows from ends all names, has the endings that all names have in
common. By induction along its growth: each part that is added is common to all names, and where
it stops, a longer run would have the next part.
-/
theorem suffix_grownEnding_iff {first : List String} {others : List (List String)} {size : Nat}
    (common : ∀ parts ∈ others, first.rtake size <:+ parts) {run : List String}
    : run <:+ grownEnding first others size ↔ run <:+ first ∧ ∀ parts ∈ others, run <:+ parts := by
  fun_induction grownEnding first others size with
  | case1 size grows ih =>
      exact ih fun parts hp => grows.2 parts hp ▸ List.drop_suffix _ _
  | case2 size stops =>
      constructor
      · exact fun h => ⟨h.trans (List.drop_suffix _ _), fun parts hp => h.trans (common parts hp)⟩
      · rintro ⟨ends, endsOthers⟩
        have short : run.length ≤ size := by
          by_contra long
          have long : size + 1 ≤ run.length := Nat.lt_of_not_le long
          refine stops ⟨long.trans ends.length_le, fun parts hp => ?_⟩
          rw [rtake_eq_of_suffix (endsOthers parts hp) long, rtake_eq_of_suffix ends long]
        refine List.suffix_of_suffix_length_le ends (List.drop_suffix _ _) ?_
        have bound := ends.length_le
        rw [List.rtake, List.length_drop]
        omega

/-- The shared parts are those that grow from the empty run. -/
theorem grownEnding_eq_sharedParts (first : String) (others : List String)
    : grownEnding (nameParts first) (others.map nameParts) 0 = sharedParts first others := by
  refine eq_of_same_endings fun run => ?_
  have empty : (nameParts first).rtake 0 = [] := by simp
  rw [suffix_grownEnding_iff fun parts _ => empty ▸ List.nil_suffix, suffix_sharedParts_iff,
    List.forall_mem_map, List.forall_mem_cons]

-----------------------------------------------------------------------------------------
-- The shared ending
-----------------------------------------------------------------------------------------

/-- Of two names or more the shared ending is made of a run that has the endings they have in
common.
-/
theorem exists_sharedEnding?_eq {names : List String} (several : 2 ≤ names.length)
    : ∃ run, (∀ other, other <:+ run ↔ ∀ name ∈ names, other <:+ nameParts name)
        ∧ sharedEnding? names
          = if "_".intercalate run = "" then none else some ("_".intercalate run) := by
  match names, several with
  | first :: second :: rest, _ =>
      exact ⟨_, fun _ => suffix_sharedParts_iff, sharedEnding?_eq first second rest⟩

/-- The shared ending of two names or more is made of the longest run of parts that ends all of
them, of which there is one, and there is none if that makes the empty text. It does not depend
on the order of the names.
-/
theorem sharedEnding?_longest {names : List String} (several : 2 ≤ names.length)
    : (∃ run, (∀ other, IsLongestEnding names other ↔ other = run)
        ∧ sharedEnding? names
          = if "_".intercalate run = "" then none else some ("_".intercalate run))
      ∧ ∀ others, others.Perm names → sharedEnding? others = sharedEnding? names := by
  obtain ⟨run, endings, made⟩ := exists_sharedEnding?_eq several
  refine ⟨⟨run, fun _ => isLongestEnding_iff_eq endings, made⟩, fun others perm => ?_⟩
  obtain ⟨run', endings', made'⟩ := exists_sharedEnding?_eq (perm.length_eq ▸ several)
  have same : run' = run := eq_of_same_endings fun parts => by
    rw [endings, endings']
    exact ⟨fun h name hn => h name (perm.mem_iff.mpr hn),
      fun h name hn => h name (perm.mem_iff.mp hn)⟩
  rw [made, made', same]

/-- Names with empty parts, of which the last has no other parts than those that end all of them. -/
def noteNames : List String :=
  ["user__note", "order__note", "__note", "_note"]

/-- The shared ending of these names, which begins with an empty part, in another order too. -/
theorem sharedEnding?_longest_noteNames
    : 2 ≤ noteNames.length
      ∧ sharedEnding? noteNames = some "_note"
      ∧ noteNames.reverse.Perm noteNames
      ∧ sharedEnding? noteNames.reverse = sharedEnding? noteNames
      ∧ ∃ run, (∀ other, IsLongestEnding noteNames other ↔ other = run)
          ∧ sharedEnding? noteNames
            = if "_".intercalate run = "" then none else some ("_".intercalate run) :=
  have several : 2 ≤ noteNames.length := by decide
  have perm : noteNames.reverse.Perm noteNames := List.reverse_perm _
  have shared := sharedEnding?_longest several
  ⟨several, by decide +kernel, perm, shared.2 _ perm, shared.1⟩

end SchemaMarkup
