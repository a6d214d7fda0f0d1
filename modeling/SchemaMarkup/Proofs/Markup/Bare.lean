import SchemaMarkup.Proofs.Markup.RoundTrip
import SchemaMarkup.Proofs.Markup.WrittenLines

/-! Bare schemas: all names and types are words, and nothing else is written. They are read back and
written line by line, so that the text without repeats is read as the schema without repeats.
-/

namespace SchemaMarkup

open Text Markup

-----------------------------------------------------------------------------------------
-- Words are written as they are
-----------------------------------------------------------------------------------------

namespace Markup

theorem plainType_of_word {type : String} (h : isWordText type = true)
    : PlainType type where
  nonempty he := (isWordText_iff.mp h).1 (by rw [he]; rfl)
  trimmed := by
    have hw := (isWordText_iff.mp h).2
    have ht : IsTrimmed type.toList :=
      ⟨fun c hc => isBlank_of_isWord (hw c (List.mem_of_mem_head? hc)),
        fun c hc => isBlank_of_isWord (hw c (List.mem_of_mem_getLast? hc))⟩
    rw [Text.trimmed, ht.trim_eq, String.ofList_toList]
  chars c hc hm := by
    have hw := (isWordText_iff.mp h).2 c hc
    have hmarks : ['[', '\x7b', '\x7d', ':', '"', '\'', '\n'].all (! isWord ·) = true := by
      decide
    exact ne_of_isWord hw (Bool.not_eq_true' _ |>.mp (List.all_eq_true.mp hmarks c hm)) rfl
  noComment hi := by
    have hw := (isWordText_iff.mp h).2 '/' (hi.subset List.mem_cons_self)
    exact absurd hw (by decide)

/-- A word holds no quotes. -/
theorem tripleFree_word {name : String} (h : isWordText name = true)
    : TripleFree name.toList :=
  fun hi => absurd ((isWordText_iff.mp h).2 '\'' (hi.subset List.mem_cons_self)) (by decide)

end Markup

-----------------------------------------------------------------------------------------
-- Schemas of words
-----------------------------------------------------------------------------------------

/-- Whether a field is a name and a type that are words, the name not that of a note. -/
structure Field.Bare (f : Field) : Prop where
  name : isWordText f.name = true
  notNote : lower f.name ≠ "note"
  type : isWordText f.type = true
  unnoted : f.note = none
  unconstrained : f.constraints = []

instance (f : Field) : Decidable f.Bare :=
  decidable_of_iff (isWordText f.name = true ∧ lower f.name ≠ "note" ∧ isWordText f.type = true
      ∧ f.note = none ∧ f.constraints = [])
    ⟨fun h => ⟨h.1, h.2.1, h.2.2.1, h.2.2.2.1, h.2.2.2.2⟩,
      fun h => ⟨h.name, h.notNote, h.type, h.unnoted, h.unconstrained⟩⟩

/-- Whether a table is a word and fields of words. -/
structure Table.Bare (t : Table) : Prop where
  name : isWordText t.name = true
  unnoted : t.note = none
  fields : ∀ f ∈ t.fields, f.Bare

instance (t : Table) : Decidable t.Bare :=
  decidable_of_iff (isWordText t.name = true ∧ t.note = none ∧ ∀ f ∈ t.fields, f.Bare)
    ⟨fun h => ⟨h.1, h.2.1, h.2.2⟩, fun h => ⟨h.name, h.unnoted, h.fields⟩⟩

/-- Whether a reference is made of words. -/
structure Ref.Bare (r : Ref) : Prop where
  sourceTable : isWordText r.sourceTable = true
  sourceField : isWordText r.sourceField = true
  targetTable : isWordText r.targetTable = true
  targetField : isWordText r.targetField = true

instance (r : Ref) : Decidable r.Bare :=
  decidable_of_iff (isWordText r.sourceTable = true ∧ isWordText r.sourceField = true
      ∧ isWordText r.targetTable = true ∧ isWordText r.targetField = true)
    ⟨fun h => ⟨h.1, h.2.1, h.2.2.1, h.2.2.2⟩,
      fun h => ⟨h.sourceTable, h.sourceField, h.targetTable, h.targetField⟩⟩

/-- Whether a schema is made of words, without notes, constraints and groups. -/
structure Schema.Bare (s : Schema) : Prop where
  tables : ∀ t ∈ s.tables, t.Bare
  refs : ∀ r ∈ s.refs, r.Bare
  ungrouped : s.groups = []

instance (s : Schema) : Decidable s.Bare :=
  decidable_of_iff ((∀ t ∈ s.tables, t.Bare) ∧ (∀ r ∈ s.refs, r.Bare) ∧ s.groups = [])
    ⟨fun h => ⟨h.1, h.2.1, h.2.2⟩, fun h => ⟨h.tables, h.refs, h.ungrouped⟩⟩

namespace Field.Bare

variable {f : Field}

theorem plain (h : f.Bare)
    : f.Plain where
  name := plainName_of_word h.name
  notNote he := h.notNote (by rw [he]; decide +kernel)
  type := plainType_of_word h.type
  note n hn := by
    rw [h.unnoted] at hn
    cases hn
  constraints c hc := by
    rw [h.unconstrained] at hc
    cases hc

theorem linewise (h : f.Bare)
    : f.Linewise where
  name := h.plain.name
  nameFree := tripleFree_word h.name
  type := h.plain.type
  constraints c hc := by
    rw [h.unconstrained] at hc
    cases hc
  note n hn := by
    rw [h.unnoted] at hn
    cases hn

end Field.Bare

namespace Table.Bare

variable {t : Table}

theorem plain (h : t.Bare)
    : t.Plain where
  name := plainName_of_word h.name
  note n hn := by
    rw [h.unnoted] at hn
    cases hn
  fields f hf := (h.fields f hf).plain

theorem linewise (h : t.Bare)
    : t.Linewise where
  name := h.plain.name
  nameFree := tripleFree_word h.name
  note n hn := by
    rw [h.unnoted] at hn
    cases hn
  fields f hf := (h.fields f hf).linewise

end Table.Bare

namespace Ref.Bare

variable {r : Ref}

theorem plain (h : r.Bare)
    : r.Plain where
  sourceTable := plainName_of_word h.sourceTable
  sourceField := plainName_of_word h.sourceField
  targetTable := plainName_of_word h.targetTable
  targetField := plainName_of_word h.targetField

theorem linewise (h : r.Bare)
    : r.Linewise where
  plain := h.plain
  free := by
    simp only [List.forall_mem_cons]
    exact ⟨tripleFree_word h.sourceTable, tripleFree_word h.sourceField,
      tripleFree_word h.targetTable, tripleFree_word h.targetField, nofun⟩

end Ref.Bare

/-- Fields of distinct names are all first ones, by induction. -/
theorem firstFields_eq_self {declared : List String} {fields : List Field}
    (distinct : (fields.map Field.name).Nodup) (new : ∀ f ∈ fields, f.name ∉ declared)
    : firstFields declared fields = fields := by
  induction fields generalizing declared with
  | nil => rfl
  | cons f fs ih =>
      obtain ⟨hf, hfs⟩ := List.nodup_cons.mp distinct
      have hnew : ∀ g ∈ fs, g.name ∉ declared := fun g hg => new g (List.mem_cons_of_mem f hg)
      have hapart : ∀ g ∈ fs, g.name ∉ f.name :: declared := by
        intro g hg hm
        rcases List.mem_cons.mp hm with he | hm
        · exact hf (he ▸ List.mem_map_of_mem hg)
        · exact hnew g hg hm
      rw [firstFields, ih hfs hnew, ih hfs hapart, if_neg (new f List.mem_cons_self)]
      split <;> rfl

namespace Schema.Bare

variable {s : Schema} {c : Conventions}

theorem plain (h : s.Bare) (nonempty : s.tables ≠ [])
    : s.Plain where
  nonempty
  tables t ht := (h.tables t ht).plain
  refs r hr := (h.refs r hr).plain
  groups g hg := by
    rw [h.ungrouped] at hg
    cases hg

theorem linewise (h : s.Bare)
    : s.Linewise where
  tables t ht := (h.tables t ht).linewise
  refs r hr := (h.refs r hr).linewise
  groups g hg := by
    rw [h.ungrouped] at hg
    cases hg

/-- The text of a bare schema without its repeated lines is read as the schema without the
references that state what an earlier one states.
-/
theorem ofText_withoutRepeats (h : s.Bare) (nonempty : s.tables ≠ [])
    (distinct : ∀ t ∈ s.tables, t.fieldNames.Nodup)
    : ofText (Markup.withoutRepeats c s.toText)
      = .ok { s with refs := distinctBy (Ref.stated c) [] s.refs } := by
  have hs : s.withoutRepeats c = { s with refs := distinctBy (Ref.stated c) [] s.refs } := by
    have ht : s.tables.map Table.withoutRepeats = s.tables := by
      refine (List.map_congr_left fun t ht => ?_).trans (List.map_id _)
      rw [Table.withoutRepeats, firstFields_eq_self (distinct t ht) fun _ _ => List.not_mem_nil]
      rfl
    rw [withoutRepeats, ht]
  have hb : ({ s with refs := distinctBy (Ref.stated c) [] s.refs } : Schema).Bare :=
    { h with refs := fun r hr => h.refs r (mem_of_mem_distinctBy hr) }
  rw [withoutRepeats_toText h.linewise.recognizable fun _ hl => h.linewise.isLogical hl, hs]
  have legible := (hb.plain nonempty).legible
  exact ofText_of_declares legible (declares_toText legible)

end Schema.Bare
end SchemaMarkup
