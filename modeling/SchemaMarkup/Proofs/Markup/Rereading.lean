import SchemaMarkup.Proofs.Markup.ReadSchemas
import SchemaMarkup.Proofs.Markup.RoundTrip

/-! Writing what has been read. The schema that any text is read as comes back from its own text, in
whatever layout and with whatever quotes the first text was written, as long as no line is written
that strings left open carry on or cut short, that says nothing, or that means something else.
-/

namespace SchemaMarkup

open Text Markup

/-- Whether the line written for a field that has been read declares the field. A note is written
behind the constraints wherever it stood; without one, only strings that the name or the type leaves
open can change where the line ends and where its constraints are cut.
-/
structure Field.Rereadable (f : Field) : Prop where
  notNote : f.name ≠ "Note"
  said : f.type ≠ "" ∨ f.allConstraints ≠ []
  line : f.note = none ∧ ClosedName f.name ∧ Shut endsText f.type.toList
    ∨ EndsLine f.toText.toList ∧ Separable f.allConstraints
  noRef : Ref.ofLine? f.toText = none
  noNote : noteValue? f.toText = none

/-- Whether the block written for a table that has been read declares the table. -/
structure Table.Rereadable (t : Table) : Prop where
  name : ClosedName t.name
  note : ∀ n ∈ t.note, EndsLine (noteText n).toList
  fields : ∀ f ∈ t.fields, f.Rereadable

/-- Whether the line written for a member that has been read lists the member. -/
structure Member.Rereadable (m : Member) : Prop where
  settled : Settled endsPart (writeName m.table).toList
  shut : m.comment ≠ none → Shut endsText (writeName m.table).toList

/-- Whether the block written for a group that has been read declares the group. -/
structure TableGroup.Rereadable (g : TableGroup) : Prop where
  name : ClosedName g.name
  members : ∀ m ∈ g.members, m.Rereadable
  note : ∀ n ∈ g.note, EndsLine (noteLine n).toList

/-- Whether the text written for a schema that has been read declares the schema. -/
structure Schema.Rereadable (s : Schema) : Prop where
  nonempty : s.tables ≠ []
  tables : ∀ t ∈ s.tables, t.Rereadable
  refs : ∀ r ∈ s.refs, EndsLine r.toText.toList
  groups : ∀ g ∈ s.groups, g.Rereadable

section

instance (f : Field) : Decidable f.Rereadable :=
  decidable_of_iff (f.name ≠ "Note" ∧ (f.type ≠ "" ∨ f.allConstraints ≠ [])
      ∧ (f.note = none ∧ ClosedName f.name ∧ Shut endsText f.type.toList
        ∨ EndsLine f.toText.toList ∧ Separable f.allConstraints)
      ∧ Ref.ofLine? f.toText = none ∧ noteValue? f.toText = none)
    ⟨fun h => ⟨h.1, h.2.1, h.2.2.1, h.2.2.2.1, h.2.2.2.2⟩,
      fun h => ⟨h.notNote, h.said, h.line, h.noRef, h.noNote⟩⟩

instance (t : Table) : Decidable t.Rereadable :=
  decidable_of_iff (ClosedName t.name ∧ (∀ n ∈ t.note, EndsLine (noteText n).toList)
      ∧ ∀ f ∈ t.fields, f.Rereadable)
    ⟨fun h => ⟨h.1, h.2.1, h.2.2⟩, fun h => ⟨h.name, h.note, h.fields⟩⟩

instance (m : Member) : Decidable m.Rereadable :=
  decidable_of_iff (Settled endsPart (writeName m.table).toList
      ∧ (m.comment ≠ none → Shut endsText (writeName m.table).toList))
    ⟨fun h => ⟨h.1, h.2⟩, fun h => ⟨h.settled, h.shut⟩⟩

instance (g : TableGroup) : Decidable g.Rereadable :=
  decidable_of_iff (ClosedName g.name ∧ (∀ m ∈ g.members, m.Rereadable)
      ∧ ∀ n ∈ g.note, EndsLine (TableGroup.noteLine n).toList)
    ⟨fun h => ⟨h.1, h.2.1, h.2.2⟩, fun h => ⟨h.name, h.members, h.note⟩⟩

instance (s : Schema) : Decidable s.Rereadable :=
  decidable_of_iff (s.tables ≠ [] ∧ (∀ t ∈ s.tables, t.Rereadable)
      ∧ (∀ r ∈ s.refs, EndsLine r.toText.toList) ∧ ∀ g ∈ s.groups, g.Rereadable)
    ⟨fun h => ⟨h.1, h.2.1, h.2.2.1, h.2.2.2⟩,
      fun h => ⟨h.nonempty, h.tables, h.refs, h.groups⟩⟩

end

/-- A field that has been read is legible if its line is not mistaken or broken. -/
theorem Field.Read.legible {f : Field} (h : f.Read) (hs : f.Rereadable)
    : f.Legible := by
  have hline : EndsLine f.toText.toList ∧ Separable f.allConstraints := by
    refine hs.line.elim (fun hc => ?_) id
    obtain ⟨unnoted, name, type⟩ := hc
    have separable : Separable f.allConstraints := by
      have hall : f.allConstraints = f.constraints := by simp [allConstraints, unnoted]
      rw [hall]
      exact h.separable name type
    exact ⟨endsLine_toText name type separable, separable⟩
  exact {
    name := h.name
    notNote := hs.notNote
    trimmed := h.trimmed
    unbracketed := h.unbracketed
    said := hs.said
    constraints := h.constraints
    separable := hline.2
    line := hline.1
    noRef := hs.noRef
    noNote := hs.noNote
  }

theorem Table.Read.legible {t : Table} (h : t.Read) (hs : t.Rereadable)
    : t.Legible where
  name := h.name
  closed := hs.name
  note := hs.note
  fields f hf := (h.fields f hf).legible (hs.fields f hf)

theorem TableGroup.Read.legible {g : TableGroup} (h : g.Read) (hs : g.Rereadable)
    : g.Legible where
  name := h.name
  closed := hs.name
  members m hm := ⟨(hs.members m hm).settled, (hs.members m hm).shut, h.comments m hm⟩
  note := hs.note
  color := h.color

theorem Schema.Read.legible {s : Schema} (h : s.Read) (hs : s.Rereadable)
    : s.Legible where
  nonempty := hs.nonempty
  tables t ht := (h.tables t ht).legible (hs.tables t ht)
  refs r hr := ⟨h.refs r hr, hs.refs r hr⟩
  groups g hg := (h.groups g hg).legible (hs.groups g hg)

namespace Schema

/-- The schema that a text is read as is read from its own text as well. -/
theorem ofText_toText_rereadable {text : String} {s : Schema} (h : ofText text = .ok s)
    (rereadable : s.Rereadable)
    : ofText s.toText = .ok s := by
  have legible : s.Legible := (read_of_ofText h).legible rereadable
  exact ofText_of_declares legible (declares_toText legible)

/-- A text in no layout that is ever written: with needless quotes, settings, notes without quotes
and among constraints, strings that are left open, a brace on a line of its own and a heading
without one.
-/
def sketchText : String :=
  "Table app.jobs [width: 4]
\x7b
  \"id\"  int [note: bare words, is: '\x7bit\\'s\x7d']
  tag \"x\" [default: \"open \x7b]
  kind it's
  Ref: jobs.by > \"a b\".id [x]
\x7d
Table later
tablegroup \"g\" \x7b
  jobs // kept
  6\" tags
  note: all
\x7d"

/-- What the sketch is read as. -/
def sketch : Schema where
  tables := [
    { name := "app.jobs"
      fields := [
        { name := "id"
          type := "int"
          note := some "bare words"
          constraints := ["is: '\x7bit\\'s\x7d'"] },
        { name := "tag", type := "\"x\"", constraints := ["default: \"open \x7b"] },
        { name := "kind", type := "it's" }] }]
  refs := [⟨"jobs", "by", .manyToOne, "a b", "id"⟩]
  groups := [
    { name := "g"
      members := [⟨"jobs", some "kept"⟩, ⟨"6\" tags", none⟩]
      note := some "all" }]

/-- Reading the sketch, and reading it again from what is written for it. -/
theorem ofText_toText_rereadable_sketch
    : ofText sketchText = .ok sketch ∧ sketch.Rereadable ∧ ofText sketch.toText = .ok sketch := by
  have read : ofText sketchText = .ok sketch := by decide +kernel
  have rereadable : sketch.Rereadable := by decide +kernel
  exact ⟨read, rereadable, ofText_toText_rereadable read rereadable⟩

/-- A text with a field whose name is a keyword between double quotes. -/
def quotedKeywordText : String :=
  "Table t \x7b
  \"Note\" text
  body text
\x7d
"

/-- The quotes around such a name are read but not written, and without them the field is lost. -/
theorem ofText_toText_loses_field
    : let declared (text : String) := (ofText text).toOption.map fun s =>
        s.tables.map fun t => (t.name, t.fieldNames)
      let written (text : String) := (ofText text).toOption.map toText
      declared quotedKeywordText = some [("t", ["Note", "body"])]
        ∧ (written quotedKeywordText).bind declared = some [("t", ["body"])] := by
  decide +kernel

end Schema
end SchemaMarkup
