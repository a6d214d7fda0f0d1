import SchemaMarkup.Proofs.Merge.Agreement
import SchemaMarkup.Proofs.Session.AcceptedRenames

/-! Renaming a table of the changes to another name and back. If the session did not know that
name, nothing is left of it but an entry of the record, from that name to the name of the table,
and no merge follows the entry.
-/

namespace SchemaMarkup

open OrderedMap

namespace Session

variable {s s₁ s₂ : Session} {t n : String}

/-- Whether a session is another one again, except that its record has an entry more, from a name
to a table.
-/
structure Returned (s s' : Session) (n t : String) : Prop where
  base : s'.base = s.base
  proposal : s'.proposal = s.proposal
  entries : ∀ kind, s'.changes.entries kind = s.changes.entries kind
  order : s'.order = s.order
  descriptions : ∀ m, s'.changes.descriptions.get? m = s.changes.descriptions.get? m
  renames : s'.renames.entries = s.renames.entries ++ [(n, t)]

-----------------------------------------------------------------------------------------
-- What two renames leave
-----------------------------------------------------------------------------------------

theorem afterRename_back {m : String} (h : m ≠ n)
    : afterRename n t (afterRename t n m) = m := by
  by_cases ht : m = t
  · simp [afterRename, ht]
  · simp [afterRename, ht, h]

/-- An entry of the record that has nothing to do with the name in between is redirected there and
back.
-/
theorem redirect?_back {k v : String} (hk : k ≠ n) (hv : v ≠ n) (proper : k ≠ v)
    : (redirect? t n (k, v)).bind (redirect? n t) = some (k, v) := by
  by_cases ht : v = t
  · subst ht
    simp [redirect?, afterRename, hk, proper]
  · simp [redirect?, afterRename, hv, ht, proper]

/-- Two renames that cancel out leave an entry of the record. -/
theorem Renamed.returned (h : s.Coherent) (r₁ : s.Renamed s₁ t n) (r₂ : s₁.Renamed s₂ n t)
    (unrecorded : n ∉ s.renames.keys) (unreached : n ∉ s.renames.values)
    : s.Returned s₂ n t := by
  have apart {kind : AdditionKind} {m : String} (hm : m ∈ (s.changes.entries kind).keys)
      : m ≠ n := fun he => r₁.free (he ▸ Session.mem_liveNames.mpr (.inr ⟨kind, hm⟩))
  have proper := r₁.proper
  refine {
    base := r₂.base.trans r₁.base
    proposal := r₂.proposal.trans r₁.proposal
    entries := fun kind => eq_of_entries ?_
    order := DisplayOrder.eq_of_names fun kind => ?_
    descriptions := fun m => ?_
    renames := ?_ }
  · rw [r₂.entries, r₁.entries, List.map_map]
    refine (List.map_congr_left fun e he => ?_).trans (List.map_id _)
    simp only [Function.comp_apply, afterRename_back (apart (mem_keys.mpr ⟨e.2, he⟩)), id]
  · rw [r₂.order, r₁.order, List.map_map]
    refine (List.map_congr_left fun m hm => ?_).trans (List.map_id _)
    exact afterRename_back (apart (h.orderListsKeys kind ▸ hm))
  · have undescribed : s.changes.descriptions.get? n = none :=
      get?_eq_none_iff.mpr fun hd => r₁.free (List.mem_append_right _ (h.describedPending n hd))
    rw [r₂.get?_descriptions (h.renamed r₁), r₁.get?_descriptions h, r₁.get?_descriptions h]
    by_cases ht : m = t
    · simp [ht]
    · by_cases hn : m = n
      · simp [hn, proper, undescribed]
      · simp [hn, ht]
  · have dropped : [(t, n)].filterMap (redirect? n t) = [] := by
      simp [redirect?, afterRename]
    have kept : s.renames.entries.filterMap (fun e => (redirect? t n e).bind (redirect? n t))
        = s.renames.entries := by
      refine (List.filterMap_congr fun e he => ?_).trans List.filterMap_some
      refine redirect?_back ?_ ?_ (h.renamesProper e he)
      · exact fun hk => unrecorded (hk ▸ List.mem_map_of_mem he)
      · exact fun hv => unreached (hv ▸ List.mem_map_of_mem he)
    rw [r₂.entries_renames (h.renamed r₁), r₁.entries_renames h, List.filterMap_append,
      List.filterMap_filterMap, dropped, kept, List.append_nil]

/-- A table of the changes can be renamed to a name that the session does not know and back. -/
theorem Coherent.exists_returned (h : s.Coherent) (pending : t ∈ s.changes.tableNames)
    (visible : t ≠ "") (trimmed : Text.trimmed t = t) (visible' : n ≠ "")
    (trimmed' : Text.trimmed n = n) (free : n ∉ s.liveNames) (unrecorded : n ∉ s.renames.keys)
    (unreached : n ∉ s.renames.values)
    : ∃ s₁ s₂, s.rename t n none = .ok s₁ ∧ s₁.rename n t none = .ok s₂ ∧ s.Returned s₂ n t := by
  have live : t ∈ s.liveNames := List.mem_append_right _ pending
  have proper : n ≠ t := fun he => free (he ▸ live)
  obtain ⟨s₁, done₁, r₁⟩ := h.exists_rename live trimmed' visible' proper free
    fun v hv => absurd (mem_keys.mpr ⟨v, hv⟩) unrecorded
  have live₁ : n ∈ s₁.liveNames := (r₁.mem_liveNames h).mpr ⟨t, live, if_pos rfl⟩
  have free₁ : t ∉ s₁.liveNames := by
    intro hl
    obtain ⟨m, _, he⟩ := (r₁.mem_liveNames h).mp hl
    by_cases hm : m = t
    · exact proper ((if_pos hm).symm.trans he)
    · exact hm ((if_neg hm).symm.trans he)
  have released : ∀ v, (t, v) ∈ s₁.renames.entries → v = n := by
    intro v hv
    rw [r₁.renames] at hv
    rcases (mem_entries_recordRename.mp hv).2 with ⟨_, rfl⟩ | ⟨he, _⟩
    · rfl
    · exact absurd rfl he
  obtain ⟨s₂, done₂, r₂⟩ :=
    (h.renamed r₁).exists_rename live₁ trimmed visible proper.symm free₁ released
  exact ⟨s₁, s₂, done₁, done₂, r₁.returned h r₂ unrecorded unreached⟩

-----------------------------------------------------------------------------------------
-- What a merge makes of the entry that is left
-----------------------------------------------------------------------------------------

/-- All names but the one in between lead where they did. -/
theorem Returned.get?_renames (r : s.Returned s₂ n t) {m : String} (hm : m ≠ n)
    : s₂.renames.get? m = s.renames.get? m := by
  refine Option.ext fun v => ?_
  rw [get?_eq_some_iff, get?_eq_some_iff, r.renames]
  simp [hm]

/-- The same declarations are found under earlier names, since there is none under the one in
between.
-/
theorem Returned.declaration? (r : s.Returned s₂ n t) {schema : Schema}
    (undeclared : n ∉ schema.tableNames) (m : String)
    : s₂.mergeRequest.declaration? schema m = s.mergeRequest.declaration? schema m := by
  have unfound : schema.table? n = none := Schema.table?_eq_none_iff.mpr undeclared
  have nothing
      : (([(n, t)].filter fun e => e.2 = m && e.1 ≠ m).map Prod.fst).findSome? schema.table?
        = none := by
    rw [List.findSome?_eq_none_iff]
    intro x hx
    obtain ⟨e, he, rfl⟩ := List.mem_map.mp hx
    rwa [List.mem_singleton.mp (List.mem_filter.mp he).1]
  change (s₂.renames.earlier m ++ [m]).findSome? schema.table?
    = (s.renames.earlier m ++ [m]).findSome? schema.table?
  rw [Renames.earlier_append r.renames, List.findSome?_append, List.findSome?_append,
    List.findSome?_append, nothing, Option.or_none]
  rfl

/-- The same base tables are kept: the entry leads to a table of the changes, and such a table is
not kept whether or not it has taken the name of a base table.
-/
theorem Returned.keeps_iff (r : s.Returned s₂ n t) (h : s.Coherent)
    (pending : t ∈ s.changes.tableNames) {m : String} (hm : m ≠ n)
    : s₂.mergeRequest.Keeps m ↔ s.mergeRequest.Keeps m := by
  have given : t ∉ s.renames.keys := fun hk =>
    h.givenUpNotLive t hk (List.mem_append_right _ pending)
  have current := Renames.current_congr (r.get?_renames hm)
  have values : m ∈ s₂.renames.values ↔ m ∈ s.renames.values ∨ m = t := by
    simp [OrderedMap.values, r.renames]
  have keys : m ∈ s₂.renames.keys ↔ m ∈ s.renames.keys := by
    simp [OrderedMap.keys, r.renames, hm]
  simp only [MergeRequest.Keeps, mergeRequest, Additions.mem_tableNames, r.entries, current, values,
    keys]
  refine and_congr_right fun unpending => ⟨fun hk hv => hk (.inl hv), fun hk hv => ?_⟩
  rcases hv with hv | rfl
  · exact hk hv
  · rw [Renames.current_of_notMem given] at unpending
    exact absurd (Additions.mem_tableNames.mp pending) unpending

/-- A merge does not follow the entry from a name that nothing mentions. -/
theorem Returned.agrees (r : s.Returned s₂ n t) (h : s.Coherent)
    (pending : t ∈ s.changes.tableNames) (unmentioned : ¬ s.mergeRequest.Mentions n)
    : s.mergeRequest.Agrees s₂.mergeRequest where
  base := r.base
  proposal := r.proposal
  entries := r.entries
  descriptions := r.descriptions
  order := r.order
  conventions := rfl
  renames _ hm := r.get?_renames fun he => unmentioned (he ▸ hm)
  declaredInBase := r.declaration? fun hd => unmentioned (.base hd)
  declaredInProposal := r.declaration? fun hd => unmentioned (.proposal hd)
  keeps _ hm := r.keeps_iff h pending fun he => unmentioned (.base (he ▸ hm))

end Session

namespace Workspace

/-- After every history, a table of the changes with a visible name can be renamed to a name that
the session does not know and back. All that changes is that the record of renames has one more
entry, and the merge stays the same.
-/
theorem renaming_back_leaves_merge (base proposal : Schema) (ops : List Operation) {t n : String}
    (pending : t ∈ ((opened base proposal).performAll ops).session.changes.tableNames)
    (visible : t ≠ "") (trimmed : Text.trimmed t = t)
    (visible' : n ≠ "") (trimmed' : Text.trimmed n = n)
    (free : n ∉ ((opened base proposal).performAll ops).session.liveNames)
    (unrecorded : n ∉ ((opened base proposal).performAll ops).session.renames.keys)
    (unreached : n ∉ ((opened base proposal).performAll ops).session.renames.values)
    (unmentioned
      : ¬ ((opened base proposal).performAll ops).session.mergeRequest.Mentions n)
    : let s := ((opened base proposal).performAll ops).session
      ∃ s₁ s₂, s.rename t n none = .ok s₁ ∧ s₁.rename n t none = .ok s₂ ∧ s.Returned s₂ n t
        ∧ ∃ m, s.merged = .ok m ∧ s₂.merged = .ok m := by
  intro s
  have coherent : s.Coherent :=
    holds_after_history (Session.coherent_start base proposal) (fun _ _ h step => h.step step) ops
  obtain ⟨s₁, s₂, done₁, done₂, returned⟩ := coherent.exists_returned pending visible trimmed
    visible' trimmed' free unrecorded unreached
  obtain ⟨m, done⟩ := MergeRequest.exists_merged (r := s.mergeRequest)
    Conventions.namesPrimitives_standard
  have same : s₂.merged = s.merged := (returned.agrees coherent pending unmentioned).merged
  exact ⟨s₁, s₂, done₁, done₂, returned, m, done, same.trans done⟩

/-- A base of one table. -/
def customers : Schema where
  tables := [{ name := "users", fields := [{ name := "_id", type := "unique" }] }]

/-- A proposal with four more tables: two that are related, one with blanks around its name and one
without a name.
-/
def warehouse : Schema where
  tables := [
    { name := "users", fields := [{ name := "_id", type := "unique" }] },
    { name := "orders", fields := [{ name := "_id", type := "unique" }] },
    { name := "items"
      fields := [{ name := "_id", type := "unique" }, { name := "order", type := "orders" }] },
    { name := " tags ", fields := [{ name := "label", type := "text" }] },
    { name := "", fields := [{ name := "remark", type := "text" }] }]
  refs := [⟨"items", "order", .manyToOne, "orders", "_id"⟩]

/-- The renamed table keeps its references, whatever name it had in between. -/
theorem renaming_back_leaves_merge_warehouse
    : let s := ((opened customers warehouse).performAll [.rename "orders" "purchases" none]).session
      "purchases" ∈ s.changes.tableNames ∧ Text.trimmed "purchases" = "purchases"
        ∧ Text.trimmed "invoices" = "invoices" ∧ "invoices" ∉ s.liveNames
        ∧ "invoices" ∉ s.renames.keys ∧ "invoices" ∉ s.renames.values
        ∧ ¬ s.mergeRequest.Mentions "invoices"
        ∧ ∃ s₁ s₂, s.rename "purchases" "invoices" none = .ok s₁
          ∧ s₁.rename "invoices" "purchases" none = .ok s₂
          ∧ s.Returned s₂ "invoices" "purchases" ∧ ∃ m, s.merged = .ok m ∧ s₂.merged = .ok m := by
  intro s
  have pending : "purchases" ∈ s.changes.tableNames := by decide +kernel
  have trimmed : Text.trimmed "purchases" = "purchases" := by decide +kernel
  have trimmed' : Text.trimmed "invoices" = "invoices" := by decide +kernel
  have free : "invoices" ∉ s.liveNames := by decide +kernel
  have unrecorded : "invoices" ∉ s.renames.keys := by decide +kernel
  have unreached : "invoices" ∉ s.renames.values := by decide +kernel
  have unmentioned : ¬ s.mergeRequest.Mentions "invoices" := by decide +kernel
  exact ⟨pending, trimmed, trimmed', free, unrecorded, unreached, unmentioned,
    renaming_back_leaves_merge customers warehouse _ pending (by decide) trimmed (by decide)
      trimmed' free unrecorded unreached unmentioned⟩

/-- The session after a table was renamed and renamed back. -/
def renamedBack (s : Session) (t n : String) : Option Session :=
  (s.rename t n none >>= (·.rename n t none)).toOption

/-- A history in which a table leaves the changes under the name that it was given. -/
def forsaking : List Operation :=
  [.rename "orders" "purchases" none, .removeTable "purchases" none]

/-- The conditions on live, recorded and mentioned names are not enough. If a table that is gone
still leads to the name in between, it leads to the renamed table afterwards, and a reference to it
is kept that was dropped before. A name with blanks at its ends is not given back, and the name of
a table that has none is refused.
-/
theorem renaming_back_takes_reference
    : let s := ((opened customers warehouse).performAll forsaking).session
      (∀ t ∈ ["items", " tags ", ""], t ∈ s.changes.newTables.keys)
        ∧ (∀ n ∈ ["purchases", "labels", "drafts"], n ≠ "" ∧ Text.trimmed n = n ∧ n ∉ s.liveNames
            ∧ n ∉ s.renames.keys ∧ ¬ s.mergeRequest.Mentions n)
        ∧ s.renames.entries = [("orders", "purchases")]
        ∧ (renamedBack s "items" "purchases").map (·.renames.entries)
          = some [("orders", "items"), ("purchases", "items")]
        ∧ s.merged.toOption.map (·.schema.refs) = some []
        ∧ ((renamedBack s "items" "purchases").bind (·.merged.toOption)).map (·.schema.refs)
          = some [⟨"items", "order", .manyToOne, "items", "_id"⟩]
        ∧ s.changes.newTables.keys = ["items", " tags ", ""]
        ∧ (renamedBack s " tags " "labels").map (·.changes.newTables.keys)
          = some ["items", "tags", ""]
        ∧ renamedBack s "" "drafts" = none := by
  decide +kernel

end Workspace
end SchemaMarkup
