import SchemaMarkup.Proofs.Additions.Difference
import SchemaMarkup.Proofs.Text.Blank

/-! What a comparison records, told without the way it is found. The additions are the tables and
fields that a proposal declares and its base lacks, first declarations counting, in the order of the
proposal. So neither the order of the base's tables nor that of its fields matters, and the order of
fields in a proposed table shows in the list that is recorded for it and nowhere else.
-/

namespace SchemaMarkup

-----------------------------------------------------------------------------------------
-- First declarations
-----------------------------------------------------------------------------------------

/-- The first declarations of the fields of the given names. -/
def Table.declarationsOf (t : Table) (names : List String) : List Field :=
  names.filterMap fun x => t.fields.find? (·.name = x)

/-- Dropping repeated fields leaves the first declaration of every name, in the order of these. -/
theorem Table.distinctFields_eq (t : Table)
    : distinctFields t.fields = t.declarationsOf t.fieldNames.eraseDups :=
  distinctBy_eq_filterMap

/-- The fields beyond a base table are the first declarations of the names that it lacks. -/
theorem fieldsBeyond_eq (old new : Table)
    : fieldsBeyond old new
      = new.declarationsOf (new.fieldNames.eraseDups.filter (· ∉ old.fieldNames)) := by
  have lacking (x : String) : (!old.declares x) = decide (x ∉ old.fieldNames) := by
    rw [Bool.eq_iff_iff, Bool.not_eq_true', ← Bool.not_eq_true, Table.declares_iff,
      decide_eq_true_iff]
  simp only [fieldsBeyond, lacking]
  exact distinctBy_filter_eq_filterMap fun x => decide (x ∉ old.fieldNames)

/-- The names of the distinct tables are the declared ones in the order of first declarations. -/
theorem Schema.map_name_distinctTables (s : Schema)
    : s.distinctTables.map Table.name = s.tableNames.eraseDups :=
  map_distinctBy_nil

/-- What holds of a distinct table holds of the first declaration of its name. -/
theorem Schema.exists_distinctTable_iff {s : Schema} {n : String} {p : Table → Prop}
    : (∃ t ∈ s.distinctTables, t.name = n ∧ p t) ↔ ∃ t, s.table? n = some t ∧ p t := by
  constructor
  · intro h
    obtain ⟨t, ht, rfl, hp⟩ := h
    exact ⟨t, mem_distinctTables.mp ht, hp⟩
  · intro h
    obtain ⟨t, ht, hp⟩ := h
    obtain ⟨_, rfl⟩ := mem_of_table?_eq_some ht
    exact ⟨t, mem_distinctTables.mpr ht, rfl, hp⟩

theorem Schema.exists_table?_iff {s : Schema} {n : String}
    : (∃ t, s.table? n = some t) ↔ n ∈ s.tableNames := by
  rw [← Option.isSome_iff_exists, ← not_iff_not, Option.not_isSome_iff_eq_none,
    table?_eq_none_iff]

namespace Additions

open OrderedMap

-----------------------------------------------------------------------------------------
-- The record as a whole
-----------------------------------------------------------------------------------------

/-- Whether additions are exactly what a proposal declares and a base lacks. Of repeated names the
first declarations count, on both sides.
-/
structure Records (base proposed : Schema) (c : Additions) : Prop where
  ordered : ∀ kind, (c.entries kind).keys.Sublist proposed.tableNames.eraseDups
  mem_newTables
    : ∀ n, n ∈ c.newTables.keys ↔ n ∈ proposed.tableNames ∧ n ∉ base.tableNames
  /-- A new table comes with all its fields, each by its first declaration. -/
  newTables
    : ∀ n fields, (n, fields) ∈ c.newTables.entries →
        ∃ t, proposed.table? n = some t ∧ fields = t.declarationsOf t.fieldNames.eraseDups
  mem_newFields
    : ∀ n, n ∈ c.newFields.keys
        ↔ ∃ t old, proposed.table? n = some t ∧ base.table? n = some old
            ∧ ∃ x ∈ t.fieldNames, x ∉ old.fieldNames
  /-- A table of the base comes with the fields that the base lacks, in the proposed order. -/
  newFields
    : ∀ n fields, (n, fields) ∈ c.newFields.entries →
        ∃ t old, proposed.table? n = some t ∧ base.table? n = some old
          ∧ fields = t.declarationsOf (t.fieldNames.eraseDups.filter (· ∉ old.fieldNames))
  described : c.descriptions.keys.Sublist proposed.tableNames.eraseDups
  mem_descriptions
    : ∀ n note, (n, note) ∈ c.descriptions.entries
        ↔ n ∈ c.tableNames ∧ ∃ t, proposed.table? n = some t ∧ t.note = some note ∧ note ≠ ""

variable {base proposed : Schema}

theorem entries_between (base proposed : Schema) (kind : AdditionKind)
    : (between base proposed).entries kind = additionsTo base proposed kind := by
  cases kind <;> rfl

theorem mem_entries_newTables {n : String} {fields : List Field}
    : (n, fields) ∈ (between base proposed).newTables.entries
      ↔ ∃ t, proposed.table? n = some t
          ∧ n ∉ base.tableNames ∧ fields = distinctFields t.fields := by
  rw [between, mem_entries_additionsTo, Schema.exists_distinctTable_iff]
  refine exists_congr fun t => and_congr_right fun ht => ?_
  rw [addition?_eq_newTables_iff, (Schema.mem_of_table?_eq_some ht).2]

theorem mem_entries_newFields {n : String} {fields : List Field}
    : (n, fields) ∈ (between base proposed).newFields.entries
      ↔ ∃ t, proposed.table? n = some t
          ∧ ∃ old, base.table? n = some old ∧ fields = fieldsBeyond old t ∧ fields ≠ [] := by
  rw [between, mem_entries_additionsTo, Schema.exists_distinctTable_iff]
  refine exists_congr fun t => and_congr_right fun ht => ?_
  rw [addition?_eq_newFields_iff, (Schema.mem_of_table?_eq_some ht).2]

theorem mem_keys_entries_between {kind : AdditionKind} {n : String}
    : n ∈ ((between base proposed).entries kind).keys
      ↔ ∃ t, proposed.table? n = some t ∧ ∃ fields, addition? base t = some (kind, fields) := by
  simp only [entries_between, mem_keys, mem_entries_additionsTo, Schema.exists_distinctTable_iff]
  constructor
  · intro h
    obtain ⟨fields, t, ht, ha⟩ := h
    exact ⟨t, ht, fields, ha⟩
  · intro h
    obtain ⟨t, ht, fields, ha⟩ := h
    exact ⟨fields, t, ht, ha⟩

/-- The tables concerned are the proposed ones that add something. -/
theorem mem_tableNames_between {n : String}
    : n ∈ (between base proposed).tableNames
      ↔ ∃ t, proposed.table? n = some t ∧ (addition? base t).isSome := by
  simp only [mem_tableNames, mem_keys_entries_between, Option.isSome_iff_exists, Prod.exists]
  constructor
  · intro h
    obtain ⟨kind, t, ht, fields, ha⟩ := h
    exact ⟨t, ht, kind, fields, ha⟩
  · intro h
    obtain ⟨t, ht, kind, fields, ha⟩ := h
    exact ⟨kind, t, ht, fields, ha⟩

/-- A comparison records exactly the additions. -/
theorem records_between (base proposed : Schema)
    : (between base proposed).Records base proposed where
  ordered kind := by
    rw [keys, entries_between, entries_additionsTo, ← Schema.map_name_distinctTables]
    exact keys_sublist (fun _ _ h => (entryOf?_eq_some_iff.mp h).1.symm) proposed
  mem_newTables n := by
    rw [mem_keys, ← Schema.exists_table?_iff]
    simp only [mem_entries_newTables]
    constructor
    · intro h
      obtain ⟨_, t, ht, hn, _⟩ := h
      exact ⟨⟨t, ht⟩, hn⟩
    · intro h
      obtain ⟨⟨t, ht⟩, hn⟩ := h
      exact ⟨_, t, ht, hn, rfl⟩
  newTables n fields h := by
    obtain ⟨t, ht, _, rfl⟩ := mem_entries_newTables.mp h
    exact ⟨t, ht, t.distinctFields_eq⟩
  mem_newFields n := by
    have lacks (t old : Table)
        : fieldsBeyond old t ≠ [] ↔ ∃ x ∈ t.fieldNames, x ∉ old.fieldNames := by
      rw [ne_eq, fieldsBeyond_eq_nil_iff]
      simp only [not_forall, exists_prop]
    rw [mem_keys]
    simp only [mem_entries_newFields, ← lacks]
    constructor
    · intro h
      obtain ⟨_, t, ht, old, ho, rfl, hf⟩ := h
      exact ⟨t, old, ht, ho, hf⟩
    · intro h
      obtain ⟨t, old, ht, ho, hf⟩ := h
      exact ⟨_, t, ht, old, ho, rfl, hf⟩
  newFields n fields h := by
    obtain ⟨t, ht, old, ho, rfl, _⟩ := mem_entries_newFields.mp h
    exact ⟨t, old, ht, ho, fieldsBeyond_eq old t⟩
  described := by
    rw [keys, between, entries_additionNotes, ← Schema.map_name_distinctTables]
    exact keys_sublist (fun _ _ h => (descriptionOf?_eq_some_iff.mp h).1.symm) proposed
  mem_descriptions n note := by
    rw [mem_tableNames_between, between, mem_entries_additionNotes,
      Schema.exists_distinctTable_iff]
    simp only [Text.nonempty?_eq_some_iff]
    constructor
    · intro h
      obtain ⟨t, ht, ha, hn⟩ := h
      exact ⟨⟨t, ht, ha⟩, t, ht, hn⟩
    · intro h
      obtain ⟨⟨t, ht, ha⟩, t', ht', hn⟩ := h
      obtain rfl := Option.some.inj (ht.symm.trans ht')
      exact ⟨t, ht, ha, hn⟩

theorem isEmpty_iff {c : Additions}
    : c.isEmpty = true ↔ ∀ n, n ∉ c.tableNames := by
  have none (m : OrderedMap String (List Field)) : m.isEmpty = true ↔ ∀ n, n ∉ m.keys := by
    rw [OrderedMap.isEmpty, List.isEmpty_iff, keys, ← List.eq_nil_iff_forall_not_mem,
      List.map_eq_nil_iff]
  rw [isEmpty, Bool.and_eq_true, none, none]
  simp only [mem_tableNames, not_exists]
  constructor
  · intro h n kind
    cases kind with
    | newTables => exact h.1 n
    | newFields => exact h.2 n
  · intro h
    exact ⟨fun n => h n .newTables, fun n => h n .newFields⟩

/-- Nothing is recorded exactly if the base declares all that the proposal does. -/
theorem isEmpty_between_iff
    : (between base proposed).isEmpty = true
      ↔ ∀ n t, proposed.table? n = some t →
          ∃ old, base.table? n = some old ∧ ∀ x ∈ t.fieldNames, x ∈ old.fieldNames := by
  simp only [isEmpty_iff, mem_tableNames_between, not_exists, not_and, Bool.not_eq_true,
    Option.isSome_eq_false_iff, Option.isNone_iff_eq_none, addition?_eq_none_iff]
  refine forall_congr' fun n => forall_congr' fun t => forall_congr' fun ht => ?_
  rw [(Schema.mem_of_table?_eq_some ht).2]

-----------------------------------------------------------------------------------------
-- Bases that declare the same
-----------------------------------------------------------------------------------------

/-- Whether two tables have the same name and declare fields of the same names. -/
def DeclareSame (t t' : Table) : Prop :=
  t'.name = t.name ∧ ∀ x, x ∈ t'.fieldNames ↔ x ∈ t.fieldNames

/-- Only which fields a base table declares matters to what is added to it. -/
theorem addition?_congr {base base' : Schema} {t : Table}
    (same : Option.Rel DeclareSame (base.table? t.name) (base'.table? t.name))
    : addition? base' t = addition? base t := by
  rw [addition?, addition?]
  generalize base.table? t.name = old? at same
  generalize base'.table? t.name = old'? at same
  cases same with
  | none => rfl
  | @some old old' same =>
      have beyond : fieldsBeyond old' t = fieldsBeyond old t := by
        simp only [fieldsBeyond_eq, same.2]
      simp only [beyond]

theorem between_congr {base base' : Schema} (proposed : Schema)
    (same : ∀ n, Option.Rel DeclareSame (base.table? n) (base'.table? n))
    : between base' proposed = between base proposed := by
  have adds : addition? base' = addition? base := funext fun t => addition?_congr (same t.name)
  simp only [between, additionsTo, additionNotes, adds]

/-- The order of the tables of a base does not matter, if none is repeated. -/
theorem between_perm_tables {base base' : Schema} (proposed : Schema)
    (distinct : base.tableNames.Nodup) (perm : base'.tables.Perm base.tables)
    : between base' proposed = between base proposed := by
  have distinct' : base'.tableNames.Nodup := (perm.map Table.name).nodup_iff.mpr distinct
  have same (n : String) : base.table? n = base'.table? n := by
    refine Option.ext fun t => ⟨fun h => ?_, fun h => ?_⟩
    · obtain ⟨ht, rfl⟩ := Schema.mem_of_table?_eq_some h
      exact Schema.table?_of_mem distinct' (perm.mem_iff.mpr ht)
    · obtain ⟨ht, rfl⟩ := Schema.mem_of_table?_eq_some h
      exact Schema.table?_of_mem distinct (perm.mem_iff.mp ht)
  refine between_congr proposed fun n => ?_
  rw [same n]
  cases base'.table? n with
  | none => exact .none
  | some t => exact .some ⟨rfl, fun x => Iff.rfl⟩

/-- Tables that declare the same in the same order are found alike, by induction on them. -/
theorem rel_table? {s s' : Schema} (h : List.Forall₂ DeclareSame s.tables s'.tables) (n : String)
    : Option.Rel DeclareSame (s.table? n) (s'.table? n) := by
  rw [Schema.table?, Schema.table?]
  generalize s.tables = ts at h
  generalize s'.tables = ts' at h
  induction h with
  | nil => exact .none
  | @cons t t' _ _ same _ ih =>
      rw [List.find?_cons, List.find?_cons, same.1]
      split
      · exact .some same
      · exact ih

/-- The order of the fields of base tables does not matter. -/
theorem between_perm_fields {base base' : Schema} (proposed : Schema)
    (perm : List.Forall₂ (fun t t' : Table => t'.name = t.name ∧ t'.fields.Perm t.fields)
      base.tables base'.tables)
    : between base' proposed = between base proposed := by
  refine between_congr proposed (rel_table? (perm.imp fun t t' h => ⟨h.1, fun x => ?_⟩))
  exact (h.2.map Field.name).mem_iff

-----------------------------------------------------------------------------------------
-- Proposed tables with their fields in another order
-----------------------------------------------------------------------------------------

/-- A table, or one of the given name without repeated fields in another order of its fields. -/
inductive Rearranged (name : String) (t : Table) : Table → Prop
  | same
    : Rearranged name t t
  | fields {fields : List Field} (named : t.name = name) (distinct : t.fieldNames.Nodup)
    (perm : fields.Perm t.fields)
    : Rearranged name t { t with fields }

/-- Whether additions differ from others in nothing but the order of the fields recorded for the
table of the given name.
-/
structure Rearranges (name : String) (c c' : Additions) : Prop where
  entries
    : ∀ kind, List.Forall₂ (fun e e' : String × List Field =>
          e'.1 = e.1 ∧ (e'.2 = e.2 ∨ e.1 = name ∧ e'.2.Perm e.2))
        (c.entries kind).entries (c'.entries kind).entries
  descriptions : c'.descriptions = c.descriptions

variable {name : String} {t t' : Table}

theorem Rearranged.name_eq (h : Rearranged name t t')
    : t'.name = t.name := by
  cases h <;> rfl

theorem Rearranged.note_eq (h : Rearranged name t t')
    : t'.note = t.note := by
  cases h <;> rfl

/-- Without repeated names, the distinct fields of any selection are the selected ones. -/
theorem distinctFields_filter {fields : List Field} (p : Field → Bool)
    (distinct : (fields.map Field.name).Nodup)
    : distinctFields (fields.filter p) = fields.filter p :=
  distinctBy_nil_eq_self (distinct.sublist (List.filter_sublist.map Field.name))

/-- What a table adds is rearranged as its fields are. -/
theorem Rearranged.rel_addition? (base : Schema) (h : Rearranged name t t')
    : Option.Rel (fun a a' : AdditionKind × List Field =>
          a'.1 = a.1 ∧ (a'.2 = a.2 ∨ t.name = name ∧ a'.2.Perm a.2))
        (addition? base t) (addition? base t') := by
  cases h with
  | same =>
      cases addition? base t with
      | none => exact .none
      | some a => exact .some ⟨rfl, .inl rfl⟩
  | @fields fields named distinct perm =>
      have distinct' : (fields.map Field.name).Nodup := (perm.map Field.name).nodup_iff.mpr distinct
      rw [addition?, addition?]
      cases base.table? t.name with
      | none =>
          have whole : (distinctFields fields).Perm (distinctFields t.fields) := by
            rwa [distinctFields, distinctFields, distinctBy_nil_eq_self distinct',
              distinctBy_nil_eq_self distinct]
          exact .some ⟨rfl, .inr ⟨named, whole⟩⟩
      | some old =>
          have beyond : (fieldsBeyond old { t with fields }).Perm (fieldsBeyond old t) := by
            rw [fieldsBeyond, fieldsBeyond, distinctFields_filter _ distinct',
              distinctFields_filter _ distinct]
            exact perm.filter _
          dsimp only
          generalize fieldsBeyond old t = added at beyond ⊢
          generalize fieldsBeyond old { t with fields } = added' at beyond ⊢
          cases added with
          | nil =>
              rw [List.perm_nil.mp beyond]
              exact .none
          | cons f fs =>
              cases added' with
              | nil => cases List.nil_perm.mp beyond
              | cons f' fs' => exact .some ⟨rfl, .inr ⟨named, beyond⟩⟩

theorem Rearranged.rel_entryOf? (base : Schema) (kind : AdditionKind) (h : Rearranged name t t')
    : Option.Rel (fun e e' : String × List Field =>
          e'.1 = e.1 ∧ (e'.2 = e.2 ∨ e.1 = name ∧ e'.2.Perm e.2))
        (entryOf? base kind t) (entryOf? base kind t') := by
  have adds := h.rel_addition? base
  rw [entryOf?, entryOf?, h.name_eq]
  generalize addition? base t = a? at adds
  generalize addition? base t' = a'? at adds
  cases adds with
  | none => exact .none
  | @some a a' same =>
      obtain ⟨kind', fields⟩ := a
      obtain ⟨_, fields'⟩ := a'
      obtain ⟨rfl, same⟩ := same
      dsimp only
      split
      · exact .some ⟨rfl, same⟩
      · exact .none

theorem Rearranged.descriptionOf?_eq (base : Schema) (h : Rearranged name t t')
    : descriptionOf? base t' = descriptionOf? base t := by
  have adds := h.rel_addition? base
  rw [descriptionOf?, descriptionOf?, h.name_eq, h.note_eq]
  generalize addition? base t = a? at adds
  generalize addition? base t' = a'? at adds
  cases adds <;> rfl

/-- Additions are rearranged as the proposed tables are. -/
theorem rearranges_between {base proposed proposed' : Schema}
    (h : List.Forall₂ (Rearranged name) proposed.tables proposed'.tables)
    : (between base proposed).Rearranges name (between base proposed') := by
  have tables : List.Forall₂ (Rearranged name) proposed.distinctTables proposed'.distinctTables :=
    forall₂_distinctBy (fun _ _ => Rearranged.name_eq) h
  constructor
  · intro kind
    rw [entries_between, entries_additionsTo, entries_between, entries_additionsTo]
    exact List.rel_filterMap (fun _ _ h => h.rel_entryOf? base kind) tables
  · refine eq_of_entries ?_
    rw [between, between, entries_additionNotes, entries_additionNotes]
    generalize proposed.distinctTables = ts at tables
    generalize proposed'.distinctTables = ts' at tables
    induction tables with
    | nil => rfl
    | cons h _ ih => rw [List.filterMap_cons, List.filterMap_cons, h.descriptionOf?_eq base, ih]

/-- A comparison records exactly the additions, so nothing if and only if the base declares all
that the proposal does. It looks neither at the order of distinct base tables nor at that of the
fields of a base table, and another order of the fields of a proposed table, if they are distinct,
shows in the list recorded for this table alone.
-/
theorem between_records_exactly (base proposed : Schema)
    : (between base proposed).Records base proposed
      ∧ ((between base proposed).isEmpty = true
        ↔ ∀ n t, proposed.table? n = some t →
            ∃ old, base.table? n = some old ∧ ∀ x ∈ t.fieldNames, x ∈ old.fieldNames)
      ∧ (∀ base' : Schema, base.tableNames.Nodup → base'.tables.Perm base.tables →
          between base' proposed = between base proposed)
      ∧ (∀ base' : Schema,
          List.Forall₂ (fun t t' : Table => t'.name = t.name ∧ t'.fields.Perm t.fields)
            base.tables base'.tables →
          between base' proposed = between base proposed)
      ∧ ∀ before t after fields, proposed.tables = before ++ t :: after → t.fieldNames.Nodup →
          fields.Perm t.fields →
          (between base proposed).Rearranges t.name
            (between base { proposed with tables := before ++ { t with fields } :: after }) := by
  refine ⟨records_between base proposed, isEmpty_between_iff,
    fun _ distinct perm => between_perm_tables proposed distinct perm,
    fun _ perm => between_perm_fields proposed perm, ?_⟩
  intro before t after fields whole distinct perm
  refine rearranges_between ?_
  have others (tables : List Table) : List.Forall₂ (Rearranged t.name) tables tables :=
    List.forall₂_same.mpr fun _ _ => .same
  rw [whole]
  exact List.rel_append (others before) (.cons (.fields rfl distinct perm) (others after))

/-- A base of two tables, one of which repeats a field. -/
def journal : Schema where
  tables := [
    { name := "users"
      fields := [{ name := "_id", type := "unique" }, { name := "name", type := "text" }] },
    { name := "posts"
      fields := [
        { name := "title", type := "text" },
        { name := "_id", type := "unique" },
        { name := "title", type := "varchar(80)" }] }]

/-- A proposed table with two fields that the base lacks. -/
def journalPosts : Table where
  name := "posts"
  fields := [
    { name := "author", type := "users" },
    { name := "title", type := "text" },
    { name := "body", type := "text" }]
  note := some "What users write"

/-- A proposal that declares a new table twice. -/
def journalProposal : Schema where
  tables := [
    { name := "tags", fields := [{ name := "label", type := "text" }] },
    journalPosts,
    { name := "tags", fields := [{ name := "color", type := "text" }] }]

/-- What is recorded for the proposal, with its base and its own fields in three other orders. -/
theorem between_records_exactly_journal
    : let turned : Schema := { journal with tables := journal.tables.reverse }
      let sorted : Schema :=
        { journal with tables := journal.tables.map fun t => { t with fields := t.fields.reverse } }
      let before := journalProposal.tables.take 1
      let after := journalProposal.tables.drop 2
      let fields := journalPosts.fields.reverse
      journal.tableNames.Nodup ∧ turned.tables.Perm journal.tables
        ∧ List.Forall₂ (fun t t' : Table => t'.name = t.name ∧ t'.fields.Perm t.fields)
            journal.tables sorted.tables
        ∧ journalProposal.tables = before ++ journalPosts :: after
        ∧ journalPosts.fieldNames.Nodup ∧ fields.Perm journalPosts.fields
        ∧ (between journal journalProposal).Records journal journalProposal
        ∧ between turned journalProposal = between journal journalProposal
        ∧ between sorted journalProposal = between journal journalProposal
        ∧ (between journal journalProposal).Rearranges "posts"
            (between journal
              { tables := before ++ { journalPosts with fields } :: after }) := by
  intro turned sorted before after fields
  have distinct : journal.tableNames.Nodup := by decide
  have tables : turned.tables.Perm journal.tables := List.reverse_perm journal.tables
  have inside : List.Forall₂ (fun t t' : Table => t'.name = t.name ∧ t'.fields.Perm t.fields)
      journal.tables sorted.tables := by
    rw [List.forall₂_map_right_iff, List.forall₂_same]
    exact fun t _ => ⟨rfl, List.reverse_perm t.fields⟩
  have apart : journalPosts.fieldNames.Nodup := by decide
  have perm : fields.Perm journalPosts.fields := List.reverse_perm journalPosts.fields
  obtain ⟨records, _, byTables, byFields, rearranged⟩ :=
    between_records_exactly journal journalProposal
  exact ⟨distinct, tables, inside, rfl, apart, perm, records, byTables turned distinct tables,
    byFields sorted inside, rearranged before journalPosts after fields rfl apart perm⟩

end Additions
end SchemaMarkup
