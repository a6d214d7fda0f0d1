import SchemaMarkup.Proofs.Merge.Origins

/-! What a merge takes from its record of renames. Two requests have the same merge if they differ
only in their renames and descriptions, lead the table names that they mention to the same names,
find the same declarations of earlier tables and keep the same tables of the base.
-/

namespace SchemaMarkup

open Markup

/-- Records that lead a name to the same name, if to any, give its table the same current name. -/
theorem Renames.current_congr {m m' : Renames} {n : String} (h : m'.get? n = m.get? n)
    : m'.current n = m.current n := by
  rw [current, current, OrderedMap.getD, OrderedMap.getD, h]

namespace MergeRequest

/-- Whether a request mentions a name as that of a table, by the places where a merge follows
renames.
-/
inductive Mentions (r : MergeRequest) (name : String) : Prop
  | base (declared : name ∈ r.base.tableNames)
  | proposal (declared : name ∈ r.proposal.tableNames)
  | fieldType {f : Field} (brought : r.Brings f) (named : f.type = name)
  | inlineRef {f : Field} {c : String} {ref : InlineRef} (brought : r.Brings f)
    (constraint : c ∈ f.constraints) (read : InlineRef.ofConstraint? c = some ref)
    (named : ref.target = name)
  | refSource {ref : Ref} (proposed : ref ∈ r.proposal.refs) (named : ref.sourceTable = name)
  | refTarget {ref : Ref} (proposed : ref ∈ r.proposal.refs) (named : ref.targetTable = name)
  | member {g : TableGroup} {e : Member} (proposed : g ∈ r.proposal.groups)
    (member : e ∈ g.members) (named : e.table = name)

/-- The fields that a request brings along. -/
def broughtFields (r : MergeRequest) : List Field :=
  (r.base.tables ++ r.proposal.tables).flatMap Table.fields
    ++ AdditionKind.all.flatMap fun kind => (r.changes.entries kind).entries.flatMap Prod.snd

theorem mem_broughtFields {r : MergeRequest} {f : Field}
    : f ∈ r.broughtFields ↔ r.Brings f := by
  simp only [broughtFields, List.mem_append, List.mem_flatMap]
  constructor
  · intro h
    rcases h with ⟨t, ht | ht, hf⟩ | ⟨kind, _, e, he, hf⟩
    · exact .ofBase ht hf
    · exact .ofProposal ht hf
    · exact .ofChanges he hf
  · intro h
    cases h with
    | ofBase ht hf => exact .inl ⟨_, .inl ht, hf⟩
    | ofProposal ht hf => exact .inl ⟨_, .inr ht, hf⟩
    | @ofChanges kind e he hf =>
        exact .inr ⟨kind, by cases kind <;> simp [AdditionKind.all], e, he, hf⟩

/-- The names that a request mentions as those of tables. -/
def mentionedNames (r : MergeRequest) : List String :=
  r.base.tableNames ++ r.proposal.tableNames
    ++ r.broughtFields.flatMap (fun f =>
      f.type :: f.constraints.filterMap fun c => (InlineRef.ofConstraint? c).map (·.target))
    ++ r.proposal.refs.flatMap (fun ref => [ref.sourceTable, ref.targetTable])
    ++ r.proposal.groups.flatMap fun g => g.members.map Member.table

theorem mem_mentionedNames {r : MergeRequest} {n : String}
    : n ∈ r.mentionedNames ↔ r.Mentions n := by
  simp only [mentionedNames, List.mem_append, List.mem_flatMap, List.mem_cons, List.mem_map,
    List.mem_filterMap, List.not_mem_nil, or_false, mem_broughtFields, Option.map_eq_some_iff]
  constructor
  · intro h
    rcases h with (((h | h) | ⟨f, hf, rfl | ⟨c, hc, ref, hr, rfl⟩⟩) | ⟨ref, hr, rfl | rfl⟩)
      | ⟨g, hg, e, he, rfl⟩
    · exact .base h
    · exact .proposal h
    · exact .fieldType hf rfl
    · exact .inlineRef hf hc hr rfl
    · exact .refSource hr rfl
    · exact .refTarget hr rfl
    · exact .member hg he rfl
  · intro h
    cases h with
    | base h => exact .inl (.inl (.inl (.inl h)))
    | proposal h => exact .inl (.inl (.inl (.inr h)))
    | fieldType hf hn => exact .inl (.inl (.inr ⟨_, hf, .inl hn.symm⟩))
    | inlineRef hf hc hr hn => exact .inl (.inl (.inr ⟨_, hf, .inr ⟨_, hc, _, hr, hn⟩⟩))
    | refSource hr hn => exact .inl (.inr ⟨_, hr, .inl hn.symm⟩)
    | refTarget hr hn => exact .inl (.inr ⟨_, hr, .inr hn.symm⟩)
    | member hg he hn => exact .inr ⟨_, hg, _, he, hn⟩

instance (r : MergeRequest) (n : String) : Decidable (r.Mentions n) :=
  decidable_of_iff (n ∈ r.mentionedNames) mem_mentionedNames

/-- Whether two requests agree in all that a merge takes from them. -/
structure Agrees (r r' : MergeRequest) : Prop where
  base : r'.base = r.base
  proposal : r'.proposal = r.proposal
  entries : ∀ kind, r'.changes.entries kind = r.changes.entries kind
  descriptions : ∀ n, r'.changes.descriptions.get? n = r.changes.descriptions.get? n
  order : r'.order = r.order
  conventions : r'.conventions = r.conventions
  /-- Names that are mentioned lead to the same names. -/
  renames : ∀ n, r.Mentions n → r'.renames.get? n = r.renames.get? n
  /-- The same declaration of an earlier table is found in the base, … -/
  declaredInBase : ∀ n, r'.declaration? r.base n = r.declaration? r.base n
  /-- … and in the proposal. -/
  declaredInProposal : ∀ n, r'.declaration? r.proposal n = r.declaration? r.proposal n
  keeps : ∀ n ∈ r.base.tableNames, (r'.Keeps n ↔ r.Keeps n)

variable {r r' : MergeRequest}

-----------------------------------------------------------------------------------------
-- Renamed names and fields
-----------------------------------------------------------------------------------------

theorem Agrees.current (h : r.Agrees r') {n : String} (mentioned : r.Mentions n)
    : r'.renames.current n = r.renames.current n :=
  Renames.current_congr (h.renames n mentioned)

theorem Agrees.renameConstraint (h : r.Agrees r') {f : Field} (brought : r.Brings f) {c : String}
    (hc : c ∈ f.constraints)
    : renameConstraint r'.renames c = renameConstraint r.renames c := by
  rw [SchemaMarkup.renameConstraint, SchemaMarkup.renameConstraint]
  cases he : InlineRef.ofConstraint? c with
  | none => rfl
  | some ref =>
      have hr : r'.renames.get? ref.target = r.renames.get? ref.target :=
        h.renames _ (.inlineRef brought hc he rfl)
      simp only [hr]

theorem Agrees.renameField (h : r.Agrees r') {f : Field} (brought : r.Brings f)
    : f.rename r'.renames = f.rename r.renames := by
  have constraints : f.constraints.map (SchemaMarkup.renameConstraint r'.renames)
      = f.constraints.map (SchemaMarkup.renameConstraint r.renames) :=
    List.map_congr_left fun _ hc => h.renameConstraint brought hc
  rw [Field.rename, Field.rename, h.current (.fieldType brought rfl), constraints]

theorem Agrees.writable (h : r.Agrees r') {fields : List Field}
    (brought : ∀ f ∈ fields, r.Brings f)
    : r'.writable fields = r.writable fields :=
  List.map_congr_left fun f hf => h.renameField (brought f (List.mem_filter.mp hf).1)

-----------------------------------------------------------------------------------------
-- Drafts
-----------------------------------------------------------------------------------------

theorem Agrees.createdDraft? (h : r.Agrees r') (name : String)
    : r'.createdDraft? name = r.createdDraft? name := by
  have fields : r'.changes.newTables = r.changes.newTables := h.entries .newTables
  have pending : r'.writable (r.changes.newTables.getD name [])
      = r.writable (r.changes.newTables.getD name []) :=
    h.writable fun _ => brings_of_mem_changes .newTables
  rw [MergeRequest.createdDraft?, MergeRequest.createdDraft?, fields, pending, h.descriptions]

theorem Agrees.createdDrafts (h : r.Agrees r')
    : r'.createdDrafts = r.createdDrafts := by
  have fields : r'.changes.newTables = r.changes.newTables := h.entries .newTables
  rw [MergeRequest.createdDrafts, MergeRequest.createdDrafts, fields, h.order,
    funext h.createdDraft?]

theorem Agrees.earlierFields (h : r.Agrees r') (name : String) (added : List Field)
    : r'.earlierFields name added = r.earlierFields name added := by
  rw [MergeRequest.earlierFields, MergeRequest.earlierFields, h.base, h.proposal,
    h.declaredInBase, h.declaredInProposal]

theorem Agrees.extendedNote (h : r.Agrees r') (name : String)
    : r'.extendedNote name = r.extendedNote name := by
  simp only [MergeRequest.extendedNote, h.base, h.proposal, h.declaredInBase,
    h.declaredInProposal, h.descriptions]

theorem Agrees.extendedDraft (h : r.Agrees r') (name : String)
    : r'.extendedDraft name = r.extendedDraft name := by
  have fields : r'.changes.newFields = r.changes.newFields := h.entries .newFields
  have added : r'.writable (r.changes.newFields.getD name [])
      = r.writable (r.changes.newFields.getD name []) :=
    h.writable fun _ => brings_of_mem_changes .newFields
  rw [MergeRequest.extendedDraft, MergeRequest.extendedDraft, fields, h.earlierFields,
    h.extendedNote, h.writable fun _ => brings_of_mem_earlierFields, added]

theorem Agrees.extendedDrafts (h : r.Agrees r') (created : List Draft)
    : r'.extendedDrafts created = r.extendedDrafts created := by
  have fields : r'.changes.newFields = r.changes.newFields := h.entries .newFields
  rw [MergeRequest.extendedDrafts, MergeRequest.extendedDrafts, fields, h.order,
    funext h.extendedDraft]

theorem Agrees.keptDraft? (h : r.Agrees r') {t : Table} (ht : t ∈ r.base.tables)
    : r'.keptDraft? t = r.keptDraft? t := by
  have declared : t.name ∈ r.base.tableNames := List.mem_map_of_mem ht
  have fields : t.fields.map (Field.rename r'.renames) = t.fields.map (Field.rename r.renames) :=
    List.map_congr_left fun _ hf => h.renameField (.ofBase ht hf)
  refine Option.ext fun d => ?_
  rw [keptDraft?_eq_some_iff, keptDraft?_eq_some_iff, h.keeps _ declared,
    h.current (.base declared), fields]

theorem Agrees.drafts (h : r.Agrees r')
    : r'.drafts = r.drafts := by
  have kept : r'.base.distinctTables.filterMap r'.keptDraft?
      = r.base.distinctTables.filterMap r.keptDraft? := by
    rw [h.base]
    exact List.filterMap_congr fun t ht => h.keptDraft? (mem_of_mem_distinctBy ht)
  rw [MergeRequest.drafts, MergeRequest.drafts, h.createdDrafts, h.extendedDrafts, keptDrafts,
    keptDrafts, kept]

-----------------------------------------------------------------------------------------
-- References and groups
-----------------------------------------------------------------------------------------

theorem Agrees.renamedRefs (h : r.Agrees r')
    : r'.renamedRefs = r.renamedRefs := by
  rw [MergeRequest.renamedRefs, MergeRequest.renamedRefs, h.proposal]
  refine List.map_congr_left fun ref hr => ?_
  rw [Ref.rename, Ref.rename, h.current (.refSource hr rfl), h.current (.refTarget hr rfl)]

theorem Agrees.mergedRefs (h : r.Agrees r') (tables : List Table)
    : r'.mergedRefs tables = r.mergedRefs tables := by
  rw [MergeRequest.mergedRefs, MergeRequest.mergedRefs, h.renamedRefs, h.conventions]

theorem Agrees.refWarnings (h : r.Agrees r') (tables : List Table)
    : r'.refWarnings tables = r.refWarnings tables := by
  rw [MergeRequest.refWarnings, MergeRequest.refWarnings, h.renamedRefs]

theorem Agrees.mergedGroups (h : r.Agrees r') (tables : List Table) (touched : List String)
    : r'.mergedGroups tables touched = r.mergedGroups tables touched := by
  rw [MergeRequest.mergedGroups, MergeRequest.mergedGroups, h.proposal]
  refine List.map_congr_left fun g hg => ?_
  have members : g.members.map (fun e => { e with table := r'.renames.current e.table })
      = g.members.map fun e => { e with table := r.renames.current e.table } :=
    List.map_congr_left fun e he => by rw [h.current (.member hg he rfl)]
  have survivors (available : List String)
      : g.survivors available r'.renames = g.survivors available r.renames := by
    rw [TableGroup.survivors, TableGroup.survivors, members]
  rw [TableGroup.rebuild, TableGroup.rebuild, survivors]

theorem Agrees.groupWarnings (h : r.Agrees r') (tables : List Table)
    : r'.groupWarnings tables = r.groupWarnings tables := by
  rw [MergeRequest.groupWarnings, MergeRequest.groupWarnings, h.proposal]
  refine List.flatMap_congr fun g hg => List.filterMap_congr fun e he => ?_
  rw [h.current (.member hg he rfl)]

/-- Requests that agree have the same merge: the same drafts, references, groups and warnings. -/
theorem Agrees.merged (h : r.Agrees r')
    : r'.merged = r.merged := by
  unfold MergeRequest.merged
  simp only [h.drafts, h.conventions, h.mergedRefs, h.refWarnings, h.mergedGroups,
    h.groupWarnings]

end MergeRequest
end SchemaMarkup
