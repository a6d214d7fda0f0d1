import Mathlib.Data.List.Perm.Basic
import SchemaMarkup.Proofs.Distinct
import SchemaMarkup.Sql.Arrangement

/-! Creation order. Whatever tables depend on, each of them is created once, and they are put in
order unless a foreign key leads nowhere.
-/

namespace SchemaMarkup.Sql

-----------------------------------------------------------------------------------------
-- The order of names
-----------------------------------------------------------------------------------------

/-- Rounds take every waiting name once, by induction on the rounds: the names that are ready and
those that are held back make up the waiting ones.
-/
theorem perm_of_rounds? {dependencies : String → List String} {waiting order : List String}
    (h : rounds? dependencies waiting = some order)
    : order.Perm waiting := by
  fun_induction rounds? dependencies waiting generalizing order with
  | case1 => exact Option.some.inj h ▸ .refl []
  | case2 waiting some stuck => cases h
  | case3 waiting some ready ih =>
      obtain ⟨later, hl, rfl⟩ := Option.map_eq_some_iff.mp h
      exact ((ih hl).append_left _).trans (List.filter_append_perm _ waiting)

theorem getD_rounds?_perm (dependencies : String → List String) (names : List String)
    : ((rounds? dependencies names).getD names).Perm names := by
  cases h : rounds? dependencies names with
  | none => exact .refl names
  | some order => exact perm_of_rounds? h

/-- Every name has its place in the creation order, in a circle of dependencies too. -/
theorem creationOrder_perm (dependencies : String → List String) (names : List String)
    : (creationOrder dependencies names).Perm names := by
  rw [creationOrder]
  split
  · exact perm_of_rounds? ‹_›
  · exact getD_rounds?_perm _ names

-----------------------------------------------------------------------------------------
-- The order of tables
-----------------------------------------------------------------------------------------

section

variable {tables : List SqlTable} (distinct : (tables.map SqlTable.name).Nodup)

include distinct

theorem find?_name_of_mem {t : SqlTable} (ht : t ∈ tables)
    : tables.find? (·.name = t.name) = some t := by
  rw [← distinctBy_nil_eq_self distinct] at ht
  exact (mem_distinctBy.mp ht).2

/-- The tables of all names, in any order, are the tables in that order. -/
theorem filterMap_find?_perm {names : List String} (perm : names.Perm (tables.map SqlTable.name))
    : (names.filterMap fun n => tables.find? (·.name = n)).Perm tables := by
  have same : ((tables.map SqlTable.name).filterMap fun n => tables.find? (·.name = n))
      = tables := by
    rw [List.filterMap_map]
    exact (List.filterMap_congr fun t ht => find?_name_of_mem distinct ht).trans
      List.filterMap_some
  exact (perm.filterMap _).trans (.of_eq same)

/-- A key is at no fault if it leads to a column of one of the tables. -/
theorem keyFault?_eq_none {table column : String} {k : KeyTarget} {target : SqlTable}
    (ht : target ∈ tables) (named : target.name = k.table)
    (hc : k.column ∈ target.columns.map Column.name)
    : keyFault? tables table column k = none := by
  obtain ⟨column', hm, he⟩ := List.mem_map.mp hc
  have found : target.columns.any (·.name = k.column) = true :=
    List.any_eq_true.mpr ⟨column', hm, decide_eq_true he⟩
  rw [keyFault?, ← named, find?_name_of_mem distinct ht]
  simp [found]

/-- Tables with distinct names are put in order if every key leads to a column of one of them. -/
theorem exists_arrange_eq_ok
    (found : ∀ t ∈ tables, ∀ column ∈ t.columns, ∀ k ∈ column.keys,
      ∃ target ∈ tables, target.name = k.table ∧ k.column ∈ target.columns.map Column.name)
    : ∃ arranged, arrange tables = .ok arranged ∧ arranged.Perm tables := by
  let sorted := (Text.sorted (tables.map SqlTable.name)).filterMap fun n =>
    tables.find? (·.name = n)
  have perm : sorted.Perm tables := filterMap_find?_perm distinct (List.mergeSort_perm _ _)
  have faultless : (sorted.findSome? fun t => t.columns.findSome? fun c =>
      c.keys.findSome? (keyFault? tables t.name c.name)) = none := by
    simp only [List.findSome?_eq_none_iff]
    intro t ht column hc k hk
    obtain ⟨target, hm, named, declared⟩ := found t (perm.mem_iff.mp ht) column hc k hk
    exact keyFault?_eq_none distinct hm named declared
  rw [arrange]
  split
  · rename_i e fault
    exact absurd (fault.symm.trans faultless) (Option.some_ne_none e)
  · exact ⟨_, rfl, filterMap_find?_perm distinct ((creationOrder_perm _ _).trans (perm.map _))⟩

end

end SchemaMarkup.Sql
