import SchemaMarkup.Proofs.Markup.Nesting
import SchemaMarkup.Proofs.Markup.ReadLines

/-! Schemas as they are read. The lines of a block stand before its closing brace, so none of them
is the last line of its text, and whatever is read of them can be written again.
-/

namespace SchemaMarkup

open Text Markup

namespace Markup

/-- The lines of a block are tidy, by induction with the cases of the reader. -/
theorem tidy_blockLines {k : Nat} {ts : List Token} (hb : bracesPair (k + 1) ts = true)
    (ht : ts.Pairwise fun t _ => t.Tidy)
    : ∀ l ∈ (blockLines k ts).1, l.Tidy := by
  fun_induction blockLines k ts with
  | case1 k => cases hb
  | case2 n ts => exact List.forall_mem_nil _
  | case3 n ts k ih => exact ih hb ht.tail
  | case4 k n ts ih => exact ih hb ht.tail
  | case5 k s comment n ts lines rest hl hs ih =>
      have hlines := ih hb ht.tail
      rw [hl] at hlines
      refine List.forall_mem_cons.mpr ⟨?_, hlines⟩
      -- No block is over with its tokens, so that another one follows the line.
      cases ts with
      | nil => cases hb
      | cons t ts => exact (List.pairwise_cons.mp ht).1 t List.mem_cons_self
  | case6 k s comment n ts lines rest hl hs ih =>
      have hlines := ih hb ht.tail
      rwa [hl] at hlines

/-- Whether a statement is one that has been read. -/
def Statement.Read : Statement → Prop
  | .ref r => r.Named
  | .table name body => IsName name ∧ ∀ l ∈ body, l.Tidy
  | .group heading body =>
    (IsName heading.name ∧ ∀ c ∈ heading.color, IsColor c) ∧ ∀ l ∈ body, l.Tidy

theorem read_of_ofBlock? {heading : String} {body : List BlockLine} {st : Statement}
    (h : Statement.ofBlock? heading body = some st) (hb : ∀ l ∈ body, l.Tidy)
    : st.Read := by
  rw [Statement.ofBlock?] at h
  split at h
  · rename_i name hn
    exact Option.some.inj h ▸ ⟨isName_of_tableHeading? hn, hb⟩
  · obtain ⟨g, hg, rfl⟩ := Option.map_eq_some_iff.mp h
    exact ⟨heading_of_groupHeading? hg, hb⟩

/-- The statements that tokens make have been read, by induction with the cases of the reader. -/
theorem read_ofTokens {ts : List Token} (hb : bracesPair 0 ts = true)
    (ht : ts.Pairwise fun t _ => t.Tidy)
    : ∀ st ∈ Statement.ofTokens ts, st.Read := by
  have after {ts : List Token} (hb : bracesPair 1 ts = true) (ht : ts.Pairwise fun t _ => t.Tidy)
      : bracesPair 0 (blockLines 0 ts).2 = true
        ∧ (blockLines 0 ts).2.Pairwise fun t _ => t.Tidy := by
    have opened : depth [.opening 0] = (0 : Nat) + 1 := rfl
    exact ⟨(blockLines_places opened hb).2.1, ht.sublist (blockLines_suffix 0 ts).sublist⟩
  fun_induction Statement.ofTokens ts with
  | case1 => exact List.forall_mem_nil _
  | case2 n ts ih => cases hb
  | case3 n ts ih =>
      obtain ⟨hrest, htidy⟩ := after hb ht.tail
      rw [skipBlock_eq] at ih ⊢
      exact ih hrest htidy
  | case4 s comment n r ts hr ih =>
      exact List.forall_mem_cons.mpr ⟨Ref.named_of_ofLine? hr, ih hb ht.tail⟩
  | case5 s comment n m ts hr ih =>
      obtain ⟨hrest, htidy⟩ := after hb ht.tail.tail
      rw [readBlock_eq] at ih ⊢
      refine List.forall_mem_append.mpr ⟨fun st hst => ?_, ih hrest htidy⟩
      exact read_of_ofBlock? (Option.mem_toList.mp hst) (tidy_blockLines hb ht.tail.tail)
  | case6 s comment n ts hne hr ih => exact ih hb ht.tail

end Markup

/-- Whether a table is one that has been read. -/
structure Table.Read (t : Table) : Prop where
  name : IsName t.name
  fields : ∀ f ∈ t.fields, f.Read

/-- Whether a group is one that has been read. -/
structure TableGroup.Read (g : TableGroup) : Prop where
  name : IsName g.name
  comments : ∀ m ∈ g.members, ∀ c ∈ m.comment, PlainComment c
  color : ∀ c ∈ g.color, IsColor c

/-- Whether a schema is one that has been read. -/
structure Schema.Read (s : Schema) : Prop where
  tables : ∀ t ∈ s.tables, t.Read
  refs : ∀ r ∈ s.refs, r.Named
  groups : ∀ g ∈ s.groups, g.Read

namespace Markup

variable {st : Statement}

/-- A field is read from a line of its table. -/
theorem BlockLine.Tidy.read_field? {l : BlockLine} (h : l.Tidy) {f : Field} (hf : l.field? = some f)
    : f.Read := by
  rw [field?] at hf
  split at hf
  · cases hf
  · exact Field.read_of_ofLine? hf h.trimmed h.settled

/-- The last member of a line has its comment, and the others have none. -/
theorem BlockLine.comment_of_mem_members {l : BlockLine} {m : Member} (h : m ∈ l.members)
    : m.comment = none ∨ m.comment = l.comment := by
  rw [members] at h
  split at h
  · cases h
  · rcases List.mem_append.mp h with h | h
    · obtain ⟨name, _, rfl⟩ := List.mem_map.mp h
      exact .inl rfl
    · obtain ⟨name, _, rfl⟩ := List.mem_map.mp h
      exact .inr rfl

namespace Statement.Read

theorem table (h : st.Read) {t : Table} (ht : st.table? = some t)
    : t.Read := by
  cases st with
  | table name body =>
      obtain rfl := Option.some.inj ht
      refine ⟨h.1, fun f hf => ?_⟩
      obtain ⟨l, hl, hf⟩ := List.mem_filterMap.mp hf
      exact (h.2 l hl).read_field? hf
  | ref r => cases ht
  | group heading body => cases ht

theorem refs (h : st.Read) {r : Ref} (hr : r ∈ st.refs)
    : r.Named := by
  cases st with
  | table name body =>
      obtain ⟨l, _, hl⟩ := List.mem_filterMap.mp hr
      exact Ref.named_of_ofLine? hl
  | ref r' => exact List.mem_singleton.mp hr ▸ h
  | group heading body => cases hr

theorem group (h : st.Read) {g : TableGroup} (hg : st.group? = some g)
    : g.Read := by
  cases st with
  | table name body => cases hg
  | ref r => cases hg
  | group heading body =>
      obtain rfl := Option.some.inj hg
      refine ⟨h.1.1, fun m hm c hc => ?_, h.1.2⟩
      obtain ⟨l, hl, hm⟩ := List.mem_flatMap.mp hm
      rcases l.comment_of_mem_members hm with he | he
      · rw [he] at hc
        cases hc
      · exact (h.2 l hl).comment c (he ▸ hc)

end Statement.Read
end Markup

/-- A schema that a text is read as is one that has been read. -/
theorem Schema.read_of_ofText {text : String} {s : Schema} (h : ofText text = .ok s)
    : s.Read := by
  obtain ⟨⟨_, hb⟩, rfl⟩ := (ofText_eq_ok_iff (map_unplaced_scan text)).mp h
  have hst := read_ofTokens hb (pairwise_scanned text.toList)
  refine ⟨?_, ?_, ?_⟩
  · intro t ht
    obtain ⟨st, hm, ht⟩ := List.mem_filterMap.mp ht
    exact (hst st hm).table ht
  · intro r hr
    obtain ⟨st, hm, hr⟩ := List.mem_flatMap.mp hr
    exact (hst st hm).refs hr
  · intro g hg
    obtain ⟨st, hm, hg⟩ := List.mem_filterMap.mp hg
    exact (hst st hm).group hg

end SchemaMarkup
