import SchemaMarkup.Proofs.Merge.Agreement
import SchemaMarkup.Proofs.Session.AcceptedRenames

/-! Renames of different tables in either order. As substitutions on names they commute, since none
of the four names is another; only the record of renames and the descriptions list them in the
order in which they were made, which a merge cannot tell.
-/

namespace SchemaMarkup

open OrderedMap

namespace Session

-----------------------------------------------------------------------------------------
-- Sessions that list their renames in different orders
-----------------------------------------------------------------------------------------

/-- Whether two sessions differ at most in the order in which they list descriptions, and renames
of different tables.
-/
structure Matches (s s' : Session) : Prop where
  base : s'.base = s.base
  proposal : s'.proposal = s.proposal
  entries : ∀ kind, s'.changes.entries kind = s.changes.entries kind
  order : s'.order = s.order
  descriptions : ∀ n, s'.changes.descriptions.get? n = s.changes.descriptions.get? n
  renames : ∀ n, s'.renames.get? n = s.renames.get? n
  earlier : ∀ n, s'.renames.earlier n = s.renames.earlier n

theorem Matches.refl (s : Session)
    : s.Matches s :=
  ⟨rfl, rfl, fun _ => rfl, rfl, fun _ => rfl, fun _ => rfl, fun _ => rfl⟩

theorem Matches.mem_renames {s s' : Session} (m : s.Matches s') {k v : String}
    : (k, v) ∈ s'.renames.entries ↔ (k, v) ∈ s.renames.entries := by
  rw [← get?_eq_some_iff, ← get?_eq_some_iff, m.renames]

/-- A merge takes nothing from a session that depends on the order of renames. -/
theorem Matches.agrees {s s' : Session} (m : s.Matches s')
    : s.mergeRequest.Agrees s'.mergeRequest where
  base := m.base
  proposal := m.proposal
  entries := m.entries
  descriptions := m.descriptions
  order := m.order
  conventions := rfl
  renames n _ := m.renames n
  declaredInBase n := congrArg (fun names => (names ++ [n]).findSome? s.base.table?) (m.earlier n)
  declaredInProposal n :=
    congrArg (fun names => (names ++ [n]).findSome? s.proposal.table?) (m.earlier n)
  keeps n _ := by
    have current := Renames.current_congr (m.renames n)
    simp only [MergeRequest.Keeps, mergeRequest, Additions.mem_tableNames, m.entries, current,
      mem_values, mem_keys, m.mem_renames]

/-- Sessions that differ in the order of renames alone have the same merge. -/
theorem Matches.merged {s s' : Session} (m : s.Matches s')
    : s'.merged = s.merged :=
  m.agrees.merged

-----------------------------------------------------------------------------------------
-- Two renames by their names
-----------------------------------------------------------------------------------------

/-- Whether two renames, from `a` to `a'` and from `b` to `b'`, have nothing to do with each other.
-/
structure NamesApart (a a' b b' : String) : Prop where
  olds : a ≠ b
  news : a' ≠ b'
  newFirst : a' ≠ b
  newSecond : b' ≠ a

variable {a a' b b' : String}

theorem NamesApart.symm (p : NamesApart a a' b b')
    : NamesApart b b' a a' :=
  ⟨p.olds.symm, p.news.symm, p.newSecond, p.newFirst⟩

theorem NamesApart.afterRename_comm (p : NamesApart a a' b b') (n : String)
    : afterRename b b' (afterRename a a' n) = afterRename a a' (afterRename b b' n) := by
  by_cases ha : n = a
  · simp [afterRename, ha, p.olds, p.newFirst]
  · by_cases hb : n = b
    · simp [afterRename, hb, p.olds.symm, p.newSecond]
    · simp [afterRename, ha, hb]

/-- An entry that does not come from either of the old names is redirected by both renames in any
order, by the name that it leads to.
-/
theorem NamesApart.redirect?_comm (p : NamesApart a a' b b') {k : String} (ha : k ≠ a)
    (hb : k ≠ b) (v : String)
    : (redirect? a a' (k, v)).bind (redirect? b b')
      = (redirect? b b' (k, v)).bind (redirect? a a') := by
  by_cases hva : v = a
  · subst hva
    by_cases hk : k = a'
    · subst hk
      simp [redirect?, afterRename, ha, p.olds]
    · simp [redirect?, afterRename, ha, hk, p.olds, p.newFirst]
  · by_cases hvb : v = b
    · subst hvb
      by_cases hk : k = b' <;> simp [redirect?, afterRename, hk, hb, p.olds.symm, p.newSecond]
    · by_cases hk : k = v <;> simp [redirect?, afterRename, hk, hva, hvb]

/-- Records that end with both renames in either order have the same earlier names of each table,
since the renames are to different names.
-/
theorem NamesApart.earlier_swapped (p : NamesApart a a' b b') {m m' : Renames}
    {es : List (String × String)} (h : m.entries = es ++ [(a, a'), (b, b')])
    (h' : m'.entries = es ++ [(b, b'), (a, a')]) (n : String)
    : m'.earlier n = m.earlier n := by
  have ends : [(b, b'), (a, a')].filter (fun e => e.2 = n && e.1 ≠ n)
      = [(a, a'), (b, b')].filter fun e => e.2 = n && e.1 ≠ n := by
    by_cases ha : a' = n
    · have hb : b' ≠ n := fun he => p.news (ha.trans he.symm)
      simp [List.filter_cons, hb]
    · simp [List.filter_cons, ha]
  rw [Renames.earlier_append h, Renames.earlier_append h', ends]

-----------------------------------------------------------------------------------------
-- The other order goes through
-----------------------------------------------------------------------------------------

variable {s s₁ s₂ s₁₂ s₂₁ : Session}

/-- Two renames in turn of different tables that there were before have nothing to do with each
other: the first takes a free name, and its old name is given up.
-/
theorem Coherent.namesApart (h : s.Coherent) (r₁ : s.Renamed s₁ a a')
    (r₁₂ : s₁.Renamed s₁₂ b b') (distinct : a ≠ b) (live : b ∈ s.liveNames)
    : NamesApart a a' b b' := by
  have newFirst : a' ≠ b := fun he => r₁.free (he ▸ live)
  refine ⟨distinct, ?_, newFirst, ?_⟩
  · intro he
    have taken : a' ∈ s₁.liveNames := (r₁.mem_liveNames h).mpr ⟨a, r₁.live, if_pos rfl⟩
    exact r₁₂.free (he ▸ taken)
  · intro he
    have givenUp : (a, a') ∈ s₁.renames.entries := by
      rw [r₁.entries_renames h]
      exact List.mem_append_right _ (List.mem_singleton_self _)
    exact newFirst (r₁₂.released a' (he ▸ givenUp))

/-- The second rename does not need the first: its new name was free before. -/
theorem Coherent.free_before (h : s.Coherent) (r₁ : s.Renamed s₁ a a')
    (r₁₂ : s₁.Renamed s₁₂ b b') (p : NamesApart a a' b b')
    : b' ∉ s.liveNames ∧ ∀ v, (b', v) ∈ s.renames.entries → v = b := by
  constructor
  · intro hl
    exact r₁₂.free ((r₁.mem_liveNames h).mpr ⟨b', hl, if_neg p.newSecond⟩)
  · intro v hv
    have redirected (proper : b' ≠ afterRename a a' v)
        : (b', afterRename a a' v) ∈ s₁.renames.entries := by
      rw [r₁.renames]
      exact mem_entries_recordRename.mpr ⟨proper, .inr ⟨p.newSecond, v, hv, rfl⟩⟩
    by_cases hva : v = a
    · have hn : afterRename a a' v = a' := if_pos hva
      rw [hn] at redirected
      exact absurd (r₁₂.released a' (redirected p.news.symm)) p.newFirst
    · have hn : afterRename a a' v = v := if_neg hva
      rw [hn] at redirected
      exact r₁₂.released v (redirected (h.renamesProper (b', v) hv))

/-- The first rename can be made after the second: its table is live still and its new name still
free.
-/
theorem Coherent.free_after (h : s.Coherent) (r₁ : s.Renamed s₁ a a') (r₂ : s.Renamed s₂ b b')
    (p : NamesApart a a' b b')
    : a ∈ s₂.liveNames ∧ a' ∉ s₂.liveNames ∧ ∀ v, (a', v) ∈ s₂.renames.entries → v = a := by
  refine ⟨(r₂.mem_liveNames h).mpr ⟨a, r₁.live, if_neg p.olds⟩, ?_, ?_⟩
  · intro hl
    obtain ⟨m, hm, he⟩ := (r₂.mem_liveNames h).mp hl
    by_cases hb : m = b
    · rw [afterRename, if_pos hb] at he
      exact p.news he.symm
    · rw [afterRename, if_neg hb] at he
      exact r₁.free (he ▸ hm)
  · intro v hv
    rw [r₂.renames] at hv
    rcases (mem_entries_recordRename.mp hv).2 with ⟨he, _⟩ | ⟨_, w, hw, rfl⟩
    · exact absurd he p.newFirst
    · obtain rfl := r₁.released w hw
      exact if_neg p.olds

-----------------------------------------------------------------------------------------
-- Both orders lead to the same session
-----------------------------------------------------------------------------------------

/-- The record after two renames that have nothing to do with each other. -/
theorem Renamed.entries_renames_twice (h : s.Coherent) (r₁ : s.Renamed s₁ a a')
    (r₁₂ : s₁.Renamed s₁₂ b b') (p : NamesApart a a' b b')
    : s₁₂.renames.entries
      = s.renames.entries.filterMap (fun e => (redirect? a a' e).bind (redirect? b b'))
        ++ [(a, a'), (b, b')] := by
  have kept : [(a, a')].filterMap (redirect? b b') = [(a, a')] := by
    simp [redirect?, afterRename, p.newFirst, r₁.proper.symm]
  rw [r₁₂.entries_renames (h.renamed r₁), r₁.entries_renames h, List.filterMap_append,
    List.filterMap_filterMap, kept, List.append_assoc, List.singleton_append]

section

variable (h : s.Coherent) (p : NamesApart a a' b b') (r₁ : s.Renamed s₁ a a')
  (r₁₂ : s₁.Renamed s₁₂ b b') (r₂ : s.Renamed s₂ b b') (r₂₁ : s₂.Renamed s₂₁ a a')

include h p r₁ r₁₂ r₂ r₂₁

/-- Each table has the same description after both orders, by cases on the four names. -/
theorem Renamed.get?_descriptions_swapped (n : String)
    : s₂₁.changes.descriptions.get? n = s₁₂.changes.descriptions.get? n := by
  simp only [r₂₁.get?_descriptions (h.renamed r₂), r₂.get?_descriptions h,
    r₁₂.get?_descriptions (h.renamed r₁), r₁.get?_descriptions h]
  by_cases ha' : n = a'
  · simp [ha', p.olds, p.news, p.newFirst, p.newSecond.symm]
  by_cases hb' : n = b'
  · simp [hb', p.olds.symm, p.news.symm, p.newFirst.symm, p.newSecond]
  by_cases ha : n = a
  · simp [ha, p.olds, p.newSecond.symm, r₁.proper.symm]
  · simp [ha', hb', ha]

/-- Two renames that have nothing to do with each other lead to the same session in either order,
up to the order in which they are listed.
-/
theorem Renamed.matches_swapped
    : s₁₂.Matches s₂₁ := by
  have both : s.renames.entries.filterMap (fun e => (redirect? b b' e).bind (redirect? a a'))
      = s.renames.entries.filterMap fun e => (redirect? a a' e).bind (redirect? b b') := by
    refine List.filterMap_congr fun e he => (p.redirect?_comm ?_ ?_ e.2).symm
    · exact fun hk => h.givenUpNotLive a (hk ▸ List.mem_map_of_mem he) r₁.live
    · exact fun hk => h.givenUpNotLive b (hk ▸ List.mem_map_of_mem he) r₂.live
  have first := r₁.entries_renames_twice h r₁₂ p
  have second := both ▸ r₂.entries_renames_twice h r₂₁ p.symm
  refine {
    base := by rw [r₂₁.base, r₂.base, r₁₂.base, r₁.base]
    proposal := by rw [r₂₁.proposal, r₂.proposal, r₁₂.proposal, r₁.proposal]
    entries := fun kind => eq_of_entries ?_
    order := DisplayOrder.eq_of_names fun kind => ?_
    descriptions := r₁.get?_descriptions_swapped h p r₁₂ r₂ r₂₁
    renames := get?_congr fun e => ?_
    earlier := p.earlier_swapped first second }
  · rw [r₂₁.entries, r₂.entries, r₁₂.entries, r₁.entries, List.map_map, List.map_map]
    refine List.map_congr_left fun e _ => ?_
    simp only [Function.comp_apply, p.afterRename_comm]
  · rw [r₂₁.order, r₂.order, r₁₂.order, r₁.order, List.map_map, List.map_map]
    exact List.map_congr_left fun n _ => (p.afterRename_comm n).symm
  · rw [first, second]
    simp [or_comm]

end

/-- Two renames of different tables that go through in turn go through in the other order too, and
lead to the same session up to the order in which they are listed. If one of them keeps a name, it
changes nothing before or after the other.
-/
theorem Coherent.exists_swapped (h : s.Coherent) {a b a' b' : String} (distinct : a ≠ b)
    (live : b ∈ s.liveNames) (first : s.rename a a' none = .ok s₁)
    (second : s₁.rename b b' none = .ok s₁₂)
    : ∃ s₂ s₂₁, s.rename b b' none = .ok s₂ ∧ s₂.rename a a' none = .ok s₂₁
        ∧ s₁₂.Matches s₂₁ := by
  have nonempty₁ := (rename_eq_ok_iff.mp first).1
  have nonempty₂ := (rename_eq_ok_iff.mp second).1
  by_cases same₁ : Text.trimmed a' = a
  · obtain rfl := rename_same first same₁
    have again : s₁₂.rename a a' none = .ok s₁₂ :=
      rename_eq_ok_iff.mpr ⟨nonempty₁, .inl ⟨same₁, rfl⟩⟩
    exact ⟨s₁₂, s₁₂, second, again, .refl s₁₂⟩
  by_cases same₂ : Text.trimmed b' = b
  · obtain rfl := rename_same second same₂
    have before : s.rename b b' none = .ok s :=
      rename_eq_ok_iff.mpr ⟨nonempty₂, .inl ⟨same₂, rfl⟩⟩
    exact ⟨s, s₁₂, before, first, .refl s₁₂⟩
  have r₁ := h.renamed_of_rename first same₁
  have r₁₂ := (h.renamed r₁).renamed_of_rename second same₂
  have p := h.namesApart r₁ r₁₂ distinct live
  obtain ⟨free₂, released₂⟩ := h.free_before r₁ r₁₂ p
  obtain ⟨s₂, done₂, r₂⟩ := h.exists_rename live rfl nonempty₂ same₂ free₂ released₂
  obtain ⟨live₁, free₁, released₁⟩ := h.free_after r₁ r₂ p
  obtain ⟨s₂₁, done₂₁, r₂₁⟩ :=
    (h.renamed r₂).exists_rename live₁ rfl nonempty₁ same₁ free₁ released₁
  exact ⟨s₂, s₂₁, done₂, done₂₁, r₁.matches_swapped h p r₁₂ r₂ r₂₁⟩

end Session

namespace Workspace

/-- After every history, two renames of different tables that go through in turn go through in the
other order too. Both orders lead to the same session, up to the order in which descriptions and
renames are listed, and both sessions have the same merge, which succeeds.
-/
theorem renames_commute (base proposal : Schema) (ops : List Operation) {a b a' b' : String}
    {s₁ s₁₂ : Session} (distinct : a ≠ b)
    (live : b ∈ ((opened base proposal).performAll ops).session.liveNames)
    (first : ((opened base proposal).performAll ops).session.rename a a' none = .ok s₁)
    (second : s₁.rename b b' none = .ok s₁₂)
    : let s := ((opened base proposal).performAll ops).session
      ∃ s₂ s₂₁, s.rename b b' none = .ok s₂ ∧ s₂.rename a a' none = .ok s₂₁
        ∧ s₁₂.Matches s₂₁ ∧ ∃ m, s₁₂.merged = .ok m ∧ s₂₁.merged = .ok m := by
  intro s
  have coherent : s.Coherent :=
    holds_after_history (Session.coherent_start base proposal) (fun _ _ h step => h.step step) ops
  obtain ⟨s₂, s₂₁, done₂, done₂₁, same⟩ := coherent.exists_swapped distinct live first second
  obtain ⟨m, done⟩ := MergeRequest.exists_merged (r := s₁₂.mergeRequest)
    Conventions.namesPrimitives_standard
  exact ⟨s₂, s₂₁, done₂, done₂₁, same, m, done, same.merged.trans done⟩

/-- A base of two related tables. -/
def forum : Schema where
  tables := [
    { name := "users", fields := [{ name := "_id", type := "unique" }] },
    { name := "posts", fields := [{ name := "author", type := "users" }] }]

/-- A proposal that extends one of them and adds a third. -/
def forumProposal : Schema where
  tables := [
    { name := "users"
      fields := [{ name := "_id", type := "unique" }, { name := "age", type := "int" }] },
    { name := "posts", fields := [{ name := "author", type := "users" }] },
    { name := "replies"
      fields := [{ name := "by", type := "users" }, { name := "post", type := "posts" }]
      note := some "answers to posts" }]
  refs := [⟨"replies", "by", .manyToOne, "users", "_id"⟩]

/-- An extended table that was renamed before is renamed again beside a new one, which has a
description.
-/
theorem renames_commute_forum
    : let s := ((opened forum forumProposal).performAll [.rename "users" "members" none]).session
      "members" ≠ "replies" ∧ "replies" ∈ s.liveNames
        ∧ s.changes.descriptions.get? "replies" = some "answers to posts"
        ∧ ∃ s₁ s₁₂, s.rename "members" "people" none = .ok s₁
          ∧ s₁.rename "replies" " answers " none = .ok s₁₂
          ∧ s₁₂.renames.entries
            = [("users", "people"), ("members", "people"), ("replies", "answers")]
          ∧ ∃ s₂ s₂₁, s.rename "replies" " answers " none = .ok s₂
            ∧ s₂.rename "members" "people" none = .ok s₂₁
            ∧ s₁₂.Matches s₂₁ ∧ ∃ m, s₁₂.merged = .ok m ∧ s₂₁.merged = .ok m := by
  intro s
  have distinct : "members" ≠ "replies" := by decide
  have live : "replies" ∈ s.liveNames := by decide +kernel
  have described : s.changes.descriptions.get? "replies" = some "answers to posts" := by
    decide +kernel
  obtain ⟨s₁₂, both⟩ := Outcome.exists_of_isSome_toOption
    (x := s.rename "members" "people" none >>= (·.rename "replies" " answers " none))
    (by decide +kernel)
  obtain ⟨s₁, first, second⟩ := Outcome.bind_eq_ok.mp both
  have recorded : (s.rename "members" "people" none >>=
      (·.rename "replies" " answers " none)).toOption.map (·.renames.entries)
      = some [("users", "people"), ("members", "people"), ("replies", "answers")] := by
    decide +kernel
  rw [both] at recorded
  exact ⟨distinct, live, described, s₁, s₁₂, first, second, Option.some.inj recorded,
    renames_commute forum forumProposal _ distinct live first second⟩

end Workspace
end SchemaMarkup
