import SchemaMarkup.Proofs.Markup.InlineRefs
import SchemaMarkup.Proofs.Merge.Origins
import SchemaMarkup.Proofs.Merge.WellFormed
import SchemaMarkup.Proofs.Session.Renaming

/-! Where a schema mentions tables. A merge follows renames in every such place, so that a name
that leads on and is not emitted itself is mentioned nowhere in the merged schema.
-/

namespace SchemaMarkup

open Markup OrderedMap

/-- Whether a schema mentions a name as that of a table, by the places where it can. -/
inductive Schema.Mentions (s : Schema) (name : String) : Prop
  | declaration (declared : name ∈ s.tableNames)
  | fieldType {t : Table} {f : Field} (table : t ∈ s.tables) (field : f ∈ t.fields)
    (named : f.type = name)
  | inlineRef {t : Table} {f : Field} (table : t ∈ s.tables) (field : f ∈ t.fields)
    (named : f.inlineTarget? = some name)
  | refSource {r : Ref} (ref : r ∈ s.refs) (named : r.sourceTable = name)
  | refTarget {r : Ref} (ref : r ∈ s.refs) (named : r.targetTable = name)
  | member {g : TableGroup} {e : Member} (group : g ∈ s.groups) (member : e ∈ g.members)
    (named : e.table = name)

/-- Whether neither the type nor any inline reference of a field is among the given names. -/
structure Field.Avoids (names : List String) (f : Field) : Prop where
  type : f.type ∉ names
  inlineRefs : ∀ c ∈ f.constraints, ∀ r ∈ InlineRef.ofConstraint? c, r.target ∉ names

theorem Field.Avoids.inlineTarget? {names : List String} {f : Field} (h : f.Avoids names)
    {n : String} (hn : f.inlineTarget? = some n)
    : n ∉ names := by
  obtain ⟨c, hc, he⟩ := List.exists_of_findSome?_eq_some hn
  obtain ⟨r, hr, rfl⟩ := Option.map_eq_some_iff.mp he
  exact h.inlineRefs c hc r hr

/-- Settling brings no name in but known ones and those of primitive types. -/
theorem Field.Avoids.settled {names known : List String} {f f' : Field} (h : f.Avoids names)
    (settles : f.SettlesTo known f') (unknown : ∀ n ∈ names, n ∉ known)
    (notPrimitive : ∀ n ∈ names, isPrimitiveName n = false)
    : f'.Avoids names := by
  refine ⟨?_, fun c hc => h.inlineRefs c (settles.constraints_sublist.subset hc)⟩
  intro hn
  rcases settles.type with he | ⟨p, he⟩ | hk
  · exact h.type (he ▸ hn)
  · have hp := notPrimitive f'.type hn
    rw [he, isPrimitiveName, Primitive.ofName?_name] at hp
    cases hp
  · exact unknown f'.type hn hk

namespace Renames

variable {m : Renames}

/-- Following a flat record once is enough: no name leads to one that leads on. -/
theorem Flat.current_notMem (flat : m.Flat) (n : String)
    : m.current n ∉ m.keys := by
  intro h
  rcases m.current_eq_or_mem_values n with he | hv
  · have hk : n ∈ m.keys := he ▸ h
    exact flat _ (mem_values.mpr ⟨n, entry_getD hk n⟩) h
  · exact flat _ hv h

/-- A renamed inline reference leads to a name that does not lead on. -/
theorem Flat.target_notMem (flat : m.Flat) {c : String} {r : InlineRef}
    (h : InlineRef.ofConstraint? (renameConstraint m c) = some r)
    : r.target ∉ m.keys := by
  rw [renameConstraint] at h
  split at h
  · rename_i hn
    rw [hn] at h
    cases h
  · rename_i old ho
    split at h
    · rename_i hn
      rw [ho] at h
      exact Option.some.inj h ▸ get?_eq_none_iff.mp hn
    · rename_i table ht
      rw [InlineRef.target_retarget ho h]
      exact flat table (mem_values.mpr ⟨_, get?_eq_some_iff.mp ht⟩)

theorem Flat.avoids_rename (flat : m.Flat) (f : Field)
    : (f.rename m).Avoids m.keys := by
  refine ⟨flat.current_notMem f.type, ?_⟩
  intro c hc r hr
  obtain ⟨c, _, rfl⟩ := List.mem_map.mp hc
  exact flat.target_notMem hr

end Renames

/-- A merged schema mentions no name that leads on, provided that no table is emitted under such
a name and none is that of a primitive type. All fields have been renamed, and references and
group members are among the emitted tables.
-/
theorem MergeRequest.not_mentions_of_merged {r : MergeRequest} {m : Merged}
    (h : r.merged = .ok m) (flat : r.renames.Flat)
    (unemitted : ∀ k ∈ r.renames.keys, k ∉ m.schema.tableNames)
    (notPrimitive : ∀ k ∈ r.renames.keys, isPrimitiveName k = false) {k : String}
    (hk : k ∈ r.renames.keys)
    : ¬ m.schema.Mentions k := by
  have wf := wellFormed_of_merged h
  have gone := unemitted k hk
  have avoids {t : Table} {f : Field} (ht : t ∈ m.schema.tables) (hf : f ∈ t.fields)
      : f.Avoids r.renames.keys := by
    obtain ⟨g, _, hg⟩ := exists_brought_of_mem_merged h ht hf
    exact (flat.avoids_rename g).settled hg unemitted notPrimitive
  intro mentions
  cases mentions with
  | declaration declared => exact gone declared
  | fieldType table field named => exact (avoids table field).type (named ▸ hk)
  | inlineRef table field named => exact (avoids table field).inlineTarget? named hk
  | refSource ref named =>
      obtain ⟨t, ht, hn, _⟩ := wf.refsDeclared _ ref
      exact gone (named ▸ hn ▸ List.mem_map_of_mem ht)
  | refTarget ref named => exact gone (named ▸ wf.refsTargeted _ ref)
  | member group member named => exact gone (named ▸ wf.membersDeclared _ group _ member)

end SchemaMarkup
