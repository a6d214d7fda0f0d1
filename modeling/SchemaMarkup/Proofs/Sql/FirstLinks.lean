import SchemaMarkup.Proofs.FirstDeclarations
import SchemaMarkup.Proofs.Sql.ForeignKeys

/-! Links of repeated declarations. Links are made by references and by the types of all fields, so
a repeated field may have one that its first declaration lacks. Such links come behind those of
references and first declarations, and so do the foreign keys that they add.
-/

namespace SchemaMarkup

/-- What the first declarations declare is declared. -/
theorem Schema.DeclaresField.of_firstDeclarations {s : Schema} {table field : String}
    (h : s.firstDeclarations.DeclaresField table field)
    : s.DeclaresField table field := by
  obtain ⟨_, hm, rfl, hf⟩ := h
  obtain ⟨t, ht, rfl⟩ := List.mem_map.mp hm
  exact ⟨t, mem_of_mem_distinctBy ht, rfl, mem_map_distinctBy_nil.mp hf⟩

namespace Sql

variable {lib : Library} {c : Conventions} {s : Schema}

-----------------------------------------------------------------------------------------
-- Links of first declarations
-----------------------------------------------------------------------------------------

theorem KeyLink.hasTarget_firstDeclarations (s : Schema) (l : KeyLink)
    : l.hasTarget s.firstDeclarations = l.hasTarget s := by
  rw [hasTarget, hasTarget, s.table?_firstDeclarations, Option.any_map]
  exact congrArg (Option.any · _) (funext fun t => t.declares_withFirstFields l.targetField)

/-- The type of a field makes the same link among the first declarations. -/
theorem KeyLink.ofType?_firstDeclarations (t : Table) (f : Field)
    : ofType? c s.firstDeclarations t.withFirstFields f = ofType? c s t f := by
  rw [ofType?, ofType?, s.table?_firstDeclarations]
  cases s.table? f.type with
  | none => rfl
  | some target =>
      simp only [Option.map_some, Option.bind_eq_bind, Option.bind_some, keyField?_withFirstFields]
      rfl

/-- The link that a type makes leads from its field to a declared one. -/
theorem KeyLink.of_ofType?_eq_some {t : Table} {f : Field} {l : KeyLink}
    (h : ofType? c s t f = some l)
    : l.sourceTable = t.name ∧ l.sourceField = f.name ∧ l.hasTarget s = true := by
  obtain ⟨target, key, ht, hk, rfl⟩ := ofType?_eq_some_iff.mp h
  obtain ⟨_, named⟩ := Schema.mem_of_table?_eq_some ht
  refine ⟨rfl, rfl, ?_⟩
  have declared : key.name ∈ target.fieldNames :=
    List.mem_map_of_mem (List.mem_of_find?_eq_some hk)
  rw [hasTarget, named, ht, Option.any_some, Table.declares_iff]
  exact declared

/-- The links that the types of all fields make. -/
def typeLinks (c : Conventions) (s : Schema) : List KeyLink :=
  s.tables.flatMap fun t => t.fields.filterMap (KeyLink.ofType? c s t)

/-- The links from a field. -/
def linksFrom (table field : String) (links : List KeyLink) : List KeyLink :=
  links.filter fun l => l.sourceTable = table && l.sourceField = field

section

variable {table field : String}

/-- The links from a field that the types of a table make are those of its declarations in the
table.
-/
theorem linksFrom_filterMap (table field : String) (t : Table)
    : linksFrom table field (t.fields.filterMap (KeyLink.ofType? c s t))
      = if t.name = table then
          (t.fields.filter (·.name = field)).filterMap (KeyLink.ofType? c s t)
        else [] := by
  split
  · rename_i named
    rw [linksFrom, List.filter_filterMap, List.filterMap_filter]
    refine List.filterMap_congr fun f _ => ?_
    cases made : KeyLink.ofType? c s t f with
    | none => simp
    | some l =>
        obtain ⟨hs, hf, _⟩ := KeyLink.of_ofType?_eq_some made
        simp [Option.filter_some, hs, hf, named]
  · rename_i named
    refine List.filter_eq_nil_iff.mpr fun l hl => ?_
    obtain ⟨f, _, made⟩ := List.mem_filterMap.mp hl
    simp [(KeyLink.of_ofType?_eq_some made).1, named]

/-- The links from a field that types make are those of its declarations in the tables of one name,
by induction on the tables.
-/
theorem linksFrom_typeLinks
    : linksFrom table field (typeLinks c s)
      = (s.tables.filter (·.name = table)).flatMap fun t =>
          (t.fields.filter (·.name = field)).filterMap (KeyLink.ofType? c s t) := by
  rw [typeLinks]
  generalize s.tables = tables
  induction tables with
  | nil => rfl
  | cons t tables ih =>
      have own := linksFrom_filterMap (c := c) (s := s) table field t
      rw [linksFrom] at ih own ⊢
      rw [List.flatMap_cons, List.filter_append, ih, own, List.filter_cons]
      split <;> rename_i named <;> simp [named]

/-- The links that types make come before all others if their fields are declared first. -/
theorem linksFrom_typeLinks_first {t : Table} {f : Field}
    (ht : t ∈ s.firstDeclarations.tables) (hf : f ∈ t.fields)
    : linksFrom t.name f.name (typeLinks c s.firstDeclarations)
      <+: linksFrom t.name f.name (typeLinks c s) := by
  have onlyTable := filter_key_eq_singleton s.nodup_tableNames_firstDeclarations ht
  have onlyField :=
    filter_key_eq_singleton (s.nodup_fieldNames_of_mem_firstDeclarations ht) hf
  obtain ⟨first, hfirst, rfl⟩ := List.mem_map.mp ht
  obtain ⟨more, tables⟩ := exists_filter_of_mem_distinctBy hfirst
  obtain ⟨repeated, fields⟩ := exists_filter_of_mem_distinctBy hf
  have tables : s.tables.filter (·.name = first.withFirstFields.name) = first :: more := tables
  have split : f :: repeated = [f] ++ repeated := rfl
  have same : [f].filterMap (KeyLink.ofType? c s.firstDeclarations first.withFirstFields)
      = [f].filterMap (KeyLink.ofType? c s first) :=
    List.filterMap_congr fun g _ => KeyLink.ofType?_firstDeclarations first g
  rw [linksFrom_typeLinks, linksFrom_typeLinks, onlyTable, tables, List.flatMap_cons,
    List.flatMap_nil, List.append_nil, onlyField, same, List.flatMap_cons, fields, split,
    List.filterMap_append, List.append_assoc]
  exact List.prefix_append _ _

theorem linksFrom_keyLinks
    : linksFrom table field (keyLinks c s)
      = (linksFrom table field (s.refs.map KeyLink.ofRef)
          ++ linksFrom table field (typeLinks c s)).filter (·.hasTarget s) := by
  rw [keyLinks, linksFrom, List.filter_comm, List.filter_append]
  rfl

/-- The links from a field come before all others if they are made by references and by what
is declared first.
-/
theorem linksFrom_keyLinks_first {t : Table} {f : Field}
    (ht : t ∈ s.firstDeclarations.tables) (hf : f ∈ t.fields)
    : linksFrom t.name f.name (keyLinks c s.firstDeclarations)
      <+: linksFrom t.name f.name (keyLinks c s) := by
  have targets : (fun l : KeyLink => l.hasTarget s.firstDeclarations) = (·.hasTarget s) :=
    funext (KeyLink.hasTarget_firstDeclarations s)
  rw [linksFrom_keyLinks, linksFrom_keyLinks, targets]
  exact ((List.prefix_append_right_inj _).mpr (linksFrom_typeLinks_first ht hf)).filter _

/-- A link that a reference or a type makes is one of the links if it has a target. -/
theorem mem_keyLinks {l : KeyLink}
    : l ∈ keyLinks c s
      ↔ (l ∈ s.refs.map KeyLink.ofRef ∨ l ∈ typeLinks c s) ∧ l.hasTarget s = true := by
  rw [keyLinks, List.mem_filter, List.mem_append]
  rfl

end

-----------------------------------------------------------------------------------------
-- Foreign keys of first declarations
-----------------------------------------------------------------------------------------

section

variable {links links' : List KeyLink} {table field : String}
  (first : linksFrom table field links <+: linksFrom table field links')

include first

/-- If the links from a field come before others, then so do its foreign keys. -/
theorem keysOf_first (lib : Library)
    : keysOf lib links table field <+: keysOf lib links' table field := by
  obtain ⟨rest, split⟩ := first
  rw [linksFrom, linksFrom] at split
  rw [keysOf, keysOf, ← split, List.map_append, List.eraseDups_append, List.map_append]
  exact List.prefix_append _ _

/-- Links that come after others add no foreign keys if they are among them. -/
theorem keysOf_eq_of_subset (lib : Library)
    (sub : linksFrom table field links' ⊆ linksFrom table field links)
    : keysOf lib links' table field = keysOf lib links table field := by
  obtain ⟨rest, split⟩ := first
  have repeated : (rest.map KeyLink.targetText).removeAll
      ((linksFrom table field links).map KeyLink.targetText) = [] := by
    refine List.filter_eq_nil_iff.mpr fun text ht => ?_
    obtain ⟨l, hl, rfl⟩ := List.mem_map.mp ht
    have before := sub (split ▸ List.mem_append_right _ hl)
    simp [List.mem_map_of_mem before]
  rw [keysOf, keysOf, ← linksFrom, ← linksFrom, ← split, List.map_append, List.eraseDups_append,
    repeated, List.eraseDups_nil, List.append_nil]

end

/-- Whether repeated declarations relate no field to another to which it is not related anyway, by
its first declaration or by a reference. A repeated field that the first declaration of its table
lacks does not count.
-/
def RepeatsAddNoLinks (c : Conventions) (s : Schema) : Prop :=
  ∀ l ∈ typeLinks c s,
    s.firstDeclarations.DeclaresField l.sourceTable l.sourceField
    → l ∈ keyLinks c s.firstDeclarations

/-- Links from a declared field are among those of the first declarations, unless they are made by
a repeated declaration.
-/
theorem RepeatsAddNoLinks.mem_keyLinks_firstDeclarations (noLinks : RepeatsAddNoLinks c s)
    {l : KeyLink} (hl : l ∈ keyLinks c s)
    (declared : s.firstDeclarations.DeclaresField l.sourceTable l.sourceField)
    : l ∈ keyLinks c s.firstDeclarations := by
  obtain ⟨stated | typed, target⟩ := mem_keyLinks.mp hl
  · exact mem_keyLinks.mpr ⟨.inl stated, (l.hasTarget_firstDeclarations s).trans target⟩
  · exact noLinks l typed declared

/-- Every field has the foreign keys that its first declaration and references give it, by any
library, if repeated declarations add no links.
-/
theorem RepeatsAddNoLinks.keysOf_eq (noLinks : RepeatsAddNoLinks c s) (lib : Library) {t : Table}
    {f : Field} (ht : t ∈ s.firstDeclarations.tables) (hf : f ∈ t.fields)
    : keysOf lib (keyLinks c s) t.name f.name
      = keysOf lib (keyLinks c s.firstDeclarations) t.name f.name := by
  have declared : s.firstDeclarations.DeclaresField t.name f.name :=
    ⟨t, ht, rfl, List.mem_map_of_mem hf⟩
  refine keysOf_eq_of_subset (linksFrom_keyLinks_first ht hf) lib fun l hl => ?_
  obtain ⟨hl, own⟩ := List.mem_filter.mp hl
  refine List.mem_filter.mpr ⟨noLinks.mem_keyLinks_firstDeclarations hl ?_, own⟩
  obtain ⟨table, field⟩ : l.sourceTable = t.name ∧ l.sourceField = f.name := by simpa using own
  rwa [table, field]

section

variable (undotted : ∀ t ∈ s.tables, ∀ x ∈ t.fieldNames, '.' ∉ x.toList)

include undotted

theorem undotted_of_hasTarget {l : KeyLink} (target : l.hasTarget s = true)
    : '.' ∉ l.targetField.toList := by
  rw [← l.hasTarget_firstDeclarations s,
    KeyLink.hasTarget_iff s.nodup_tableNames_firstDeclarations] at target
  obtain ⟨t, ht, _, hf⟩ := target.of_firstDeclarations
  exact undotted t ht _ hf

/-- Repeated declarations add no links exactly if every field has the foreign keys that its first
declaration and references give it.
-/
theorem repeatsAddNoLinks_iff (builds : lib.BuildsTables)
    : RepeatsAddNoLinks c s
      ↔ ∀ t ∈ s.firstDeclarations.tables, ∀ f ∈ t.fields,
          keysOf lib (keyLinks c s) t.name f.name
            = keysOf lib (keyLinks c s.firstDeclarations) t.name f.name := by
  have undotted' : ∀ l ∈ keyLinks c s.firstDeclarations, '.' ∉ l.targetField.toList :=
    fun l hl => undotted_of_hasTarget undotted
      ((l.hasTarget_firstDeclarations s).symm.trans (mem_keyLinks.mp hl).2)
  have undotted : ∀ l ∈ keyLinks c s, '.' ∉ l.targetField.toList :=
    fun l hl => undotted_of_hasTarget undotted (mem_keyLinks.mp hl).2
  refine ⟨fun noLinks t ht f hf => noLinks.keysOf_eq lib ht hf, fun same l hl declared => ?_⟩
  obtain ⟨t, ht, table, hx⟩ := declared
  obtain ⟨f, hf, field⟩ := List.mem_map.mp hx
  have target : l.hasTarget s = true := by
    obtain ⟨t, _, hl⟩ := List.mem_flatMap.mp hl
    obtain ⟨f, _, made⟩ := List.mem_filterMap.mp hl
    exact (KeyLink.of_ofType?_eq_some made).2.2
  have hk : ⟨l.targetTable, l.targetField⟩ ∈ keysOf lib (keyLinks c s) t.name f.name := by
    rw [mem_keysOf_iff builds undotted, table, field]
    exact mem_keyLinks.mpr ⟨.inr hl, target⟩
  rw [same t ht f hf, mem_keysOf_iff builds undotted', table, field] at hk
  exact hk

end

end Sql
end SchemaMarkup
