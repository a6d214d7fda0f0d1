import SchemaMarkup.Proofs.Merge.FieldNames
import SchemaMarkup.Proofs.Session.BaseTables

/-! The earlier fields of extended tables. A merge rebuilds a table that the changes extend from
a declaration of the proposal, which it looks up under the earlier names of the table before its
own. In a coherent session this finds the right table of the base, but a table of the proposal
whose name leads to the extended one is taken for it, even if it has never been the same table.
-/

namespace SchemaMarkup

open OrderedMap Text

/-- Whether some of the given fields has the name and can be written out. -/
def Writes (fields : List Field) (x : String) : Prop :=
  ∃ f ∈ fields, f.isIncomplete = false ∧ f.name = x

-----------------------------------------------------------------------------------------
-- Looking tables up under earlier names
-----------------------------------------------------------------------------------------

/-- The earlier names of a table are the names that lead to it from elsewhere. -/
theorem Renames.mem_earlier {m : Renames} {n k : String}
    : k ∈ m.earlier n ↔ (k, n) ∈ m.entries ∧ k ≠ n := by
  simp [Renames.earlier]

/-- A search that only one of the candidates can end ends with it. -/
theorem findSome?_eq_of_unique {α β : Type} {f : α → Option β} {candidates : List α} {a : α} {b : β}
    (listed : a ∈ candidates) (found : f a = some b)
    (unique : ∀ x ∈ candidates, (f x).isSome = true → x = a)
    : candidates.findSome? f = some b := by
  cases h : candidates.findSome? f with
  | none =>
      rw [List.findSome?_eq_none_iff.mp h a listed] at found
      cases found
  | some b' =>
      obtain ⟨x, hx, hb⟩ := List.exists_of_findSome?_eq_some h
      obtain rfl := unique x hx (by rw [hb]; rfl)
      exact hb.symm.trans found

namespace MergeRequest

variable {r : MergeRequest}

/-- A table is found under a later name if none but its own name leads there from a declared
table.
-/
theorem declaration?_eq_some {s : Schema} {t : Table} {n : String}
    (declared : s.table? t.name = some t) (leads : t.name ∈ r.renames.earlier n ∨ t.name = n)
    (unique : ∀ k ∈ r.renames.earlier n, k ∈ s.tableNames → k = t.name)
    : r.declaration? s n = some t := by
  have unique' : ∀ k ∈ r.renames.earlier n, (s.table? k).isSome = true → k = t.name := by
    intro k hk hs
    obtain ⟨t', ht⟩ := Option.isSome_iff_exists.mp hs
    obtain ⟨hm, hn⟩ := Schema.mem_of_table?_eq_some ht
    exact unique k hk (hn ▸ List.mem_map_of_mem hm)
  -- The name itself is the last candidate, and counts only if no earlier name is declared.
  rw [declaration?, List.findSome?_append]
  by_cases hl : t.name ∈ r.renames.earlier n
  · rw [findSome?_eq_of_unique hl declared unique', Option.some_or]
  · have hn : t.name = n := leads.resolve_left hl
    have none : (r.renames.earlier n).findSome? s.table? = none := by
      refine List.findSome?_eq_none_iff.mpr fun k hk => ?_
      by_contra hs
      exact hl (unique' k hk (Option.isSome_iff_ne_none.mpr hs) ▸ hk)
    rw [none, Option.none_or, List.findSome?_singleton, ← hn, declared]

/-- Whether a merge writes a field of an extended table out: the declaration of the proposal
from which it rebuilds the table does, or the fields that are added do.
-/
def Rewrites (r : MergeRequest) (n x : String) : Prop :=
  (∃ found, r.declaration? r.proposal n = some found ∧ Writes found.fields x)
    ∨ Writes (r.changes.newFields.getD n []) x

/-- An extended table that both schemas are found to declare has, of the fields of its
declaration in the base, those that the merge writes out.
-/
theorem exists_table_of_rebuilt {m : Merged} (done : r.merged = .ok m) {n : String}
    (extends' : r.Extends n) (notCreated : ¬ r.Creates n) {old : Table}
    (inBase : r.declaration? r.base n = some old)
    (inProposal : (r.declaration? r.proposal n).isSome = true)
    : ∃ t, m.schema.table? n = some t
        ∧ ∀ x ∈ old.fieldNames, x ∈ t.fieldNames ↔ r.Rewrites n x := by
  obtain ⟨found, hf⟩ := Option.isSome_iff_exists.mp inProposal
  obtain ⟨t, ht, hx⟩ := exists_table_of_extends done extends' notCreated
  refine ⟨t, ht, fun x hm => ?_⟩
  rw [hx]
  refine or_congr ?_ Iff.rfl
  simp only [earlierFields, inBase, hf, List.mem_filter, Table.declares_iff, Option.some.injEq,
    exists_eq_left']
  constructor
  · intro h
    obtain ⟨f, ⟨hf, _⟩, hc, he⟩ := h
    exact ⟨f, hf, hc, he⟩
  · intro h
    obtain ⟨f, hf, hc, rfl⟩ := h
    exact ⟨f, ⟨hf, hm⟩, hc, rfl⟩

end MergeRequest

-----------------------------------------------------------------------------------------
-- Extended tables of a session
-----------------------------------------------------------------------------------------

namespace Session

/-- A base table has an earlier name of its current one, or has the current one as its own. -/
theorem Coherent.leads {s : Session} (h : s.Coherent) (b : String)
    : b ∈ s.renames.earlier (s.renames.current b) ∨ b = s.renames.current b := by
  by_cases hk : b ∈ s.renames.keys
  · obtain ⟨v, hv⟩ := mem_keys.mp hk
    rw [Renames.current_of_mem hv]
    exact .inl (Renames.mem_earlier.mpr ⟨hv, h.renamesProper _ hv⟩)
  · exact .inr (Renames.current_of_notMem hk).symm

/-- In a coherent session a merge finds each base table under its current name. -/
theorem Coherent.declaration?_base {s : Session} (h : s.Coherent) {old : Table}
    (hb : s.base.table? old.name = some old)
    : s.mergeRequest.declaration? s.base (s.renames.current old.name) = some old := by
  refine MergeRequest.declaration?_eq_some hb (h.leads old.name) fun k hk hm => ?_
  have hc : s.renames.current k = s.renames.current old.name :=
    Renames.current_of_mem (Renames.mem_earlier.mp hk).1
  exact h.currentInjective k hm _ (List.mem_map_of_mem (Schema.mem_of_table?_eq_some hb).1) hc

/-- In a coherent session a merge finds the proposed declaration of a base table under its
current name, unless it finds that of another table whose name leads there.
-/
theorem Coherent.declaration?_proposal {s : Session} (h : s.Coherent) {n : String} {new : Table}
    (hp : s.proposal.table? n = some new)
    (apart : ∀ k ∈ s.renames.earlier (s.renames.current n), k ∈ s.proposal.tableNames → k = n)
    : s.mergeRequest.declaration? s.proposal (s.renames.current n) = some new := by
  obtain rfl : new.name = n := (Schema.mem_of_table?_eq_some hp).2
  exact MergeRequest.declaration?_eq_some hp (h.leads new.name) apart

theorem Coherent.isSome_declaration?_proposal {s : Session} (h : s.Coherent) {n : String}
    {new : Table} (hp : s.proposal.table? n = some new)
    : (s.mergeRequest.declaration? s.proposal (s.renames.current n)).isSome = true := by
  have listed : n ∈ s.renames.earlier (s.renames.current n) ++ [s.renames.current n] :=
    List.mem_append.mpr ((h.leads n).imp_right List.mem_singleton.mpr)
  exact List.findSome?_isSome_iff.mpr ⟨n, listed, by rw [hp]; rfl⟩

/-- Whether no other table of the proposal may be taken for a base table: none has a name that
leads to the current name of that table.
-/
def Apart (s : Session) (b : String) : Prop :=
  ∀ k ∈ s.renames.earlier (s.renames.current b), k ∈ s.proposal.tableNames → k = b

/-- An extended base table that the proposal declares has, of the fields of its declaration in
the base, those that the merge writes out; if no other table of the proposal may be taken for
it, these include all fields that both declarations have and that can be written out.
-/
theorem Coherent.exists_extended_table {s : Session} (h : s.Coherent) (visible : s.Visible)
    {m : Merged} (done : s.merged = .ok m) {old new : Table}
    (hb : s.base.table? old.name = some old) (hp : s.proposal.table? old.name = some new)
    (extended : s.renames.current old.name ∈ s.changes.newFields.keys)
    : ∃ t, m.schema.table? (s.renames.current old.name) = some t
        ∧ ∀ x ∈ old.fieldNames,
            (x ∈ t.fieldNames ↔ s.mergeRequest.Rewrites (s.renames.current old.name) x)
            ∧ (s.Apart old.name → Writes new.fields x → x ∈ t.fieldNames) := by
  have hm : old.name ∈ s.base.tableNames :=
    List.mem_map_of_mem (Schema.mem_of_table?_eq_some hb).1
  have extends' : s.mergeRequest.Extends (s.renames.current old.name) :=
    ⟨visible.current hm, extended⟩
  have notCreated : ¬ s.mergeRequest.Creates (s.renames.current old.name) := fun hc =>
    h.kindsDisjoint _ hc.mem_keys extended
  obtain ⟨t, ht, hx⟩ := MergeRequest.exists_table_of_rebuilt done extends' notCreated
    (h.declaration?_base hb) (h.isSome_declaration?_proposal hp)
  refine ⟨t, ht, fun x hm => ⟨hx x hm, fun apart written => ?_⟩⟩
  exact (hx x hm).mpr (.inl ⟨new, h.declaration?_proposal hp apart, written⟩)

end Session

namespace Workspace

/-- After every history on a base without blank table names the changes can be merged. A base
table that the changes extend and that the proposal declares is emitted under its current name,
and of the fields of its declaration in the base it has those that the merge writes out. So it
keeps each field that both declarations have and that can be written out, if no other table of
the proposal may be taken for it.
-/
theorem extended_table_keeps_iff (base proposal : Schema) (ops : List Operation)
    (named : ∀ n ∈ base.tableNames, isBlankText n = false)
    : let s := ((opened base proposal).performAll ops).session
      ∃ m, s.merged = .ok m
        ∧ ∀ old new, s.base.table? old.name = some old → s.proposal.table? old.name = some new
          → s.renames.current old.name ∈ s.changes.newFields.keys
          → ∃ t, m.schema.table? (s.renames.current old.name) = some t
              ∧ ∀ x ∈ old.fieldNames,
                  (x ∈ t.fieldNames ↔ s.mergeRequest.Rewrites (s.renames.current old.name) x)
                  ∧ (s.Apart old.name → Writes new.fields x → x ∈ t.fieldNames) := by
  intro s
  obtain ⟨coherent, visible⟩ := coherent_visible_after_history base proposal ops named
  obtain ⟨m, done⟩ := MergeRequest.exists_merged (r := s.mergeRequest)
    Conventions.namesPrimitives_standard
  exact ⟨m, done, fun old new hb hp extended =>
    coherent.exists_extended_table visible done hb hp extended⟩

/-- A base with two tables. -/
def chats : Schema where
  tables := [
    { name := "users"
      fields := [{ name := "_id", type := "unique" }, { name := "name", type := "text" }] },
    { name := "rooms"
      fields := [{ name := "_id", type := "unique" }, { name := "topic", type := "text" }] }]

/-- A proposal that extends both tables and has another one. -/
def chatsProposal : Schema where
  tables := [
    { name := "users"
      fields := [
        { name := "_id", type := "unique" },
        { name := "name", type := "varchar(80)" },
        { name := "age", type := "int" }] },
    { name := "rooms"
      fields := [
        { name := "topic", type := "text" },
        { name := "owner", type := "users" }] },
    { name := "people", fields := [{ name := "nick", type := "text" }] }]

/-- A history in which a base table has for a while the name of a proposed table that is not
wanted, and another one is renamed for good.
-/
def borrowingName : List Operation :=
  [.removeTable "people" none, .rename "users" "people" none, .rename "people" "users" none,
    .rename "rooms" "channels" none]

/-- What the two extended tables keep after such a history. -/
theorem extended_table_keeps_iff_chats
    : (∀ n ∈ chats.tableNames, isBlankText n = false)
      ∧ let s := ((opened chats chatsProposal).performAll borrowingName).session
        ∃ m, s.merged = .ok m
          ∧ ∀ old new, s.base.table? old.name = some old → s.proposal.table? old.name = some new
            → s.renames.current old.name ∈ s.changes.newFields.keys
            → ∃ t, m.schema.table? (s.renames.current old.name) = some t
                ∧ ∀ x ∈ old.fieldNames,
                    (x ∈ t.fieldNames ↔ s.mergeRequest.Rewrites (s.renames.current old.name) x)
                    ∧ (s.Apart old.name → Writes new.fields x → x ∈ t.fieldNames) :=
  ⟨by decide +kernel, extended_table_keeps_iff _ _ _ (by decide +kernel)⟩

/-- A base table that takes its name back loses the fields that both of its declarations have:
the merge rebuilds it from the proposed table whose name it had in between.
-/
theorem extended_table_loses_fields
    : let s := ((opened chats chatsProposal).performAll borrowingName).session
      (∀ d ∈ [chats, chatsProposal], ∀ n ∈ d.tableNames ++ d.tables.flatMap Table.fieldNames,
          isBlankText n = false)
        ∧ s.base = chats ∧ s.proposal = chatsProposal
        ∧ s.renames.current "users" = "users" ∧ "users" ∈ s.changes.newFields.keys
        ∧ (chats.table? "users").map Table.fieldNames = some ["_id", "name"]
        ∧ (chatsProposal.table? "users").map Table.fieldNames = some ["_id", "name", "age"]
        ∧ s.merged.toOption.map (fun m => (m.schema.table? "users").map Table.fieldNames)
          = some (some ["age"]) := by
  decide +kernel

end Workspace
end SchemaMarkup
