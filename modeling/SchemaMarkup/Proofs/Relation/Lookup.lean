import SchemaMarkup.Proofs.Relation.Inference
import SchemaMarkup.Proofs.Text.Search

/-! Which table a stem leads to. Of the trailing parts of the stem the longest that may mean some
table decides, and of the tables it may mean the one that is closest in spelling is taken: the name
itself, else the least that differs only in case, else the least with a form in common. So neither
the order of the tables nor a repetition among them matters.
-/

namespace SchemaMarkup

open Text

-----------------------------------------------------------------------------------------
-- Trailing parts of a stem
-----------------------------------------------------------------------------------------

/-- Whether a text is a nonempty part of a stem that goes to its end and begins where the stem
does or after an underscore.
-/
structure IsTrailingPart (stem part : String) : Prop where
  nonempty : part ≠ ""
  ends : part = stem ∨ ∃ before, stem = before ++ "_" ++ part

theorem mem_trailing {α : Type} {xs as : List α}
    : xs ∈ trailing as ↔ xs ≠ [] ∧ xs <:+ as := by
  induction as with
  | nil => simp [trailing]
  | cons a as ih =>
      rw [trailing, List.mem_cons, ih, List.suffix_cons_iff]
      constructor
      · rintro (rfl | ⟨hne, hs⟩)
        · exact ⟨List.cons_ne_nil a as, .inl rfl⟩
        · exact ⟨hne, .inr hs⟩
      · rintro ⟨hne, hs⟩
        exact hs.imp_right fun hs => ⟨hne, hs⟩

/-- Of the ends of a list each later one is shorter, by induction. -/
theorem pairwise_trailing {α : Type} (as : List α)
    : (trailing as).Pairwise fun xs ys => ∃ before, before ≠ [] ∧ xs = before ++ ys := by
  induction as with
  | nil => exact .nil
  | cons a as ih =>
      refine List.pairwise_cons.mpr ⟨fun ys hys => ?_, ih⟩
      obtain ⟨before, rfl⟩ := (mem_trailing.mp hys).2
      exact ⟨a :: before, List.cons_ne_nil a before, rfl⟩

/-- The parts that are tried for a stem are its trailing parts. -/
theorem mem_trailingParts {stem part : String}
    : part ∈ trailingParts stem ↔ IsTrailingPart stem part := by
  rw [trailingParts, List.mem_filter, List.mem_map, decide_eq_true_iff]
  constructor
  · rintro ⟨⟨xs, hxs, rfl⟩, nonempty⟩
    obtain ⟨hne, before, split⟩ := mem_trailing.mp hxs
    have joined : stem = "_".intercalate (before ++ xs) := by
      rw [split]
      exact (intercalate_splitOn '_' stem).symm
    refine ⟨nonempty, ?_⟩
    by_cases hb : before = []
    · rw [hb, List.nil_append] at joined
      exact .inl joined.symm
    · rw [String.intercalate_append_of_ne_nil hb hne] at joined
      exact .inr ⟨_, joined⟩
  · rintro ⟨nonempty, ends⟩
    refine ⟨⟨splitOn '_' part, mem_trailing.mpr ⟨splitOn_ne_nil '_' part, ?_⟩, ?_⟩, nonempty⟩
    · rcases ends with rfl | ⟨before, rfl⟩
      · exact List.suffix_rfl
      · exact ⟨_, (splitOn_append '_' before part).symm⟩
    · exact intercalate_splitOn '_' part

/-- The trailing parts are tried from the longest to the shortest. -/
theorem pairwise_trailingParts (stem : String)
    : (trailingParts stem).Pairwise fun longer shorter => shorter.length < longer.length := by
  refine (List.pairwise_map.mpr ?_).filter _
  refine (pairwise_trailing _).imp_of_mem ?_
  rintro xs ys _ hys ⟨before, hne, rfl⟩
  have split := String.intercalate_append_of_ne_nil (s := "_") hne (mem_trailing.mp hys).1
  have underscore : "_".length = 1 := rfl
  rw [split, String.length_append, String.length_append]
  omega

-----------------------------------------------------------------------------------------
-- The table that a name means
-----------------------------------------------------------------------------------------

/-- Whether two names have a spelling in common, each taken as it is, in the singular or in the
plural, and without regard to case.
-/
def SharesForm (name table : String) : Prop :=
  ∃ form ∈ wordForms name, form ∈ wordForms table

/-- Whether a name may mean a table. -/
inductive MayMean (name table : String) : Prop
  | spelled (same : table = name)
  | anyCase (same : lower table = lower name)
  | byForm (shared : SharesForm name table)

/-- The one of several tables that a name means. -/
inductive Means (tables : List String) (name table : String) : Prop
  | spelled (same : table = name) (declared : name ∈ tables)
  | anyCase (unspelled : name ∉ tables)
    (least : IsLeast {t | t ∈ tables ∧ lower t = lower name} table)
  | byForm (unspelled : ∀ t ∈ tables, lower t ≠ lower name)
    (least : IsLeast {t | t ∈ tables ∧ SharesForm name t} table)

section

variable {tables others : List String} {name table : String}

theorem hasForm_iff
    : hasForm (wordForms name) table = true ↔ SharesForm name table := by
  simp only [hasForm, List.any_eq_true, decide_eq_true_iff, SharesForm, and_comm]

/-- A table that is found by its exact name is that name. -/
theorem find?_exact_eq_some_iff
    : (sorted tables).find? (· = name) = some table ↔ table = name ∧ name ∈ tables := by
  rw [find?_sorted_eq_some_iff]
  constructor
  · rintro ⟨⟨declared, same⟩, _⟩
    obtain rfl := of_decide_eq_true same
    exact ⟨rfl, declared⟩
  · rintro ⟨rfl, declared⟩
    refine ⟨⟨declared, decide_eq_true rfl⟩, ?_⟩
    rintro other ⟨_, same⟩
    exact (of_decide_eq_true same).ge

theorem find?_exact_eq_none_iff
    : (sorted tables).find? (· = name) = none ↔ name ∉ tables := by
  rw [find?_sorted_eq_none_iff]
  constructor
  · intro h declared
    exact absurd rfl (of_decide_eq_false (h name declared))
  · intro undeclared t ht
    exact decide_eq_false fun same => undeclared (same ▸ ht)

/-- What is looked up for a name is the table that it means, if there is one. -/
theorem meantTable?_eq_some_iff (named : "" ∉ tables)
    : meantTable? (sorted tables) name = some table ↔ Means tables name table := by
  have nonempty (h : table ∈ tables) : table ≠ "" := fun he => named (he ▸ h)
  rw [meantTable?, nonempty?_eq_some_iff, spelledTable?]
  simp only [Option.or_eq_some_iff, Option.or_eq_none_iff, find?_exact_eq_some_iff,
    find?_exact_eq_none_iff]
  simp only [find?_sorted_eq_some_iff, find?_sorted_eq_none_iff, decide_eq_true_iff,
    decide_eq_false_iff_not, hasForm_iff]
  constructor
  · rintro ⟨(⟨same, declared⟩ | ⟨undeclared, least⟩) | ⟨⟨_, unspelled⟩, least⟩, _⟩
    · exact .spelled same declared
    · exact .anyCase undeclared least
    · exact .byForm unspelled least
  · rintro (⟨rfl, declared⟩ | ⟨undeclared, least⟩ | ⟨unspelled, least⟩)
    · exact ⟨.inl (.inl ⟨rfl, declared⟩), nonempty declared⟩
    · exact ⟨.inl (.inr ⟨undeclared, least⟩), nonempty least.1.1⟩
    · have undeclared : name ∉ tables := fun declared => unspelled name declared rfl
      exact ⟨.inr ⟨⟨undeclared, unspelled⟩, least⟩, nonempty least.1.1⟩

/-- The table that a name means is one of those that it may mean. -/
theorem Means.mayMean (h : Means tables name table)
    : table ∈ tables ∧ MayMean name table := by
  cases h with
  | spelled same declared => exact ⟨same ▸ declared, .spelled same⟩
  | anyCase _ least => exact ⟨least.1.1, .anyCase least.1.2⟩
  | byForm _ least => exact ⟨least.1.1, .byForm least.1.2⟩

/-- A name that may mean some of the tables means one of them. -/
theorem MayMean.exists_means (declared : table ∈ tables) (h : MayMean name table)
    : ∃ t, Means tables name t := by
  by_cases exact : name ∈ tables
  · exact ⟨name, .spelled rfl exact⟩
  by_cases anyCase : ∃ t ∈ tables, lower t = lower name
  · obtain ⟨t, least⟩ := exists_isLeast anyCase
    exact ⟨t, .anyCase exact least⟩
  have unspelled : ∀ t ∈ tables, lower t ≠ lower name := fun t ht he => anyCase ⟨t, ht, he⟩
  cases h with
  | spelled same => exact absurd (same ▸ declared) exact
  | anyCase same => exact absurd same (unspelled table declared)
  | byForm shared =>
      obtain ⟨t, least⟩ := exists_isLeast ⟨table, declared, shared⟩
      exact ⟨t, .byForm unspelled least⟩

/-- Nothing is looked up for a name exactly if there is no table that it may mean. -/
theorem meantTable?_eq_none_iff (named : "" ∉ tables)
    : meantTable? (sorted tables) name = none ↔ ∀ t ∈ tables, ¬ MayMean name t := by
  constructor
  · intro h t ht may
    obtain ⟨u, means⟩ := may.exists_means ht
    rw [(meantTable?_eq_some_iff named).mpr means] at h
    cases h
  · intro h
    refine Option.eq_none_iff_forall_ne_some.mpr fun t ht => ?_
    obtain ⟨declared, may⟩ := ((meantTable?_eq_some_iff named).mp ht).mayMean
    exact h t declared may

/-- The table that a name means depends neither on the order of the tables nor on how often they
are repeated.
-/
theorem meantTable?_sorted_congr (h : ∀ t, t ∈ others ↔ t ∈ tables) (name : String)
    : meantTable? (sorted others) name = meantTable? (sorted tables) name := by
  simp only [meantTable?, spelledTable?, find?_sorted_congr h]

end

-----------------------------------------------------------------------------------------
-- The table that a stem leads to
-----------------------------------------------------------------------------------------

/-- Whether a stem leads to a table: the longest of its trailing parts that may mean any of the
tables means this one.
-/
inductive LeadsTo (tables : List String) (stem table : String) : Prop
  | byPart {part : String} (trailing : IsTrailingPart stem part) (means : Means tables part table)
    (longest
      : ∀ longer, IsTrailingPart stem longer → part.length < longer.length →
          ∀ t ∈ tables, ¬ MayMean longer t)

section

variable {tables others : List String} {stem table : String}

/-- Parts are tried from the longest to the shortest, so the first of them that is found something
for is the longest one.
-/
theorem referencedTable?_eq_some_iff (named : "" ∉ tables)
    : referencedTable? stem tables = some table ↔ LeadsTo tables stem table := by
  have order := pairwise_trailingParts stem
  rw [referencedTable?, List.findSome?_eq_some_iff]
  constructor
  · rintro ⟨before, part, after, split, found, passed⟩
    have tried {p : String} : IsTrailingPart stem p ↔ p ∈ before ++ part :: after := by
      rw [← split, mem_trailingParts]
    rw [split, List.pairwise_append, List.pairwise_cons] at order
    refine .byPart (tried.mpr (by simp)) ((meantTable?_eq_some_iff named).mp found) ?_
    intro longer hl length
    rcases List.mem_append.mp (tried.mp hl) with hb | ha
    · exact (meantTable?_eq_none_iff named).mp (passed longer hb)
    · rcases List.mem_cons.mp ha with rfl | ha
      · omega
      · have shorter := order.2.1.1 longer ha
        omega
  · rintro ⟨trailing, means, longest⟩
    rename_i part
    obtain ⟨before, after, split⟩ := List.append_of_mem (mem_trailingParts.mpr trailing)
    refine ⟨before, part, after, split, (meantTable?_eq_some_iff named).mpr means, ?_⟩
    intro longer hb
    rw [split, List.pairwise_append] at order
    have hl : IsTrailingPart stem longer :=
      mem_trailingParts.mp (split ▸ List.mem_append_left _ hb)
    exact (meantTable?_eq_none_iff named).mpr
      (longest longer hl (order.2.2 longer hb part List.mem_cons_self))

theorem referencedTable?_eq_none_iff (named : "" ∉ tables)
    : referencedTable? stem tables = none
      ↔ ∀ part, IsTrailingPart stem part → ∀ t ∈ tables, ¬ MayMean part t := by
  simp only [referencedTable?, List.findSome?_eq_none_iff, mem_trailingParts,
    meantTable?_eq_none_iff named]

theorem referencedTable?_congr (h : ∀ t, t ∈ others ↔ t ∈ tables) (stem : String)
    : referencedTable? stem others = referencedTable? stem tables := by
  rw [referencedTable?, referencedTable?, funext (meantTable?_sorted_congr h)]

/-- Among tables that have names, a stem leads to none exactly if no trailing part of it may mean
one of them. Otherwise it leads to the one that the longest part with a meaning means, by the
precedence of spellings, and this is the same for the tables in any order and however often each is
repeated.
-/
theorem referenced_table_precedence (named : "" ∉ tables) (stem : String)
    : (referencedTable? stem tables = none
        ↔ ∀ part, IsTrailingPart stem part → ∀ t ∈ tables, ¬ MayMean part t)
      ∧ (∀ table, referencedTable? stem tables = some table ↔ LeadsTo tables stem table)
      ∧ ∀ others : List String, (∀ t, t ∈ others ↔ t ∈ tables) →
          referencedTable? stem others = referencedTable? stem tables := by
  refine ⟨referencedTable?_eq_none_iff named, ?_, ?_⟩
  · exact fun table => referencedTable?_eq_some_iff named
  · exact fun others h => referencedTable?_congr h stem

end

/-- Of the tables that a stem with an empty part leads to by its last part alone, two differ from it
in case only, and the lesser of these is taken before the plural.
-/
theorem referenced_table_precedence_user
    : let tables := ["users", "User", "club", "USER"]
      "" ∉ tables
        ∧ referencedTable? "club__user" tables = some "USER"
        ∧ LeadsTo tables "club__user" "USER"
        ∧ referencedTable? "club__user" ("USER" :: tables.reverse) = some "USER" := by
  have named : "" ∉ ["users", "User", "club", "USER"] := by decide
  have order : sorted ["users", "User", "club", "USER"] = ["USER", "User", "club", "users"] :=
    sorted_eq_of_perm (by decide +kernel) (by decide +kernel)
  have found : referencedTable? "club__user" ["users", "User", "club", "USER"] = some "USER" := by
    rw [referencedTable?, order]
    decide +kernel
  obtain ⟨_, leads, same⟩ := referenced_table_precedence named "club__user"
  refine ⟨named, found, (leads "USER").mp found, (same _ fun t => ?_).trans found⟩
  simp [or_comm, or_left_comm]

end SchemaMarkup
