import Mathlib.Data.List.Forall2
import SchemaMarkup.Markup.Repeats
import SchemaMarkup.Proofs.Markup.Statements

/-! Tokens of which some are left out. If only references and repeated fields of a table are
missing, and whoever leaves them out follows the braces of the tables as they are read, the rest
is read as the same tables with the same names of fields.
-/

namespace SchemaMarkup

open Markup

/-- Whether only repeated fields of a table are missing in another one. -/
structure Table.RepeatsDropped (t t' : Table) : Prop where
  name : t'.name = t.name
  note : t'.note = t.note
  fields : t'.fields.Sublist t.fields
  fieldNames : ∀ x, x ∈ t'.fieldNames ↔ x ∈ t.fieldNames

namespace Markup

/-- Whether a line declares a field of the given name in its table. -/
def BlockLine.Declares (l : BlockLine) (name : String) : Prop :=
  ∃ f, l.field? = some f ∧ f.name = name

-----------------------------------------------------------------------------------------
-- Which tokens may be left out
-----------------------------------------------------------------------------------------

/-- Whether the latter tokens are the former less references and repeated fields, given the
table block that is open: what is left out heads no block, a field is left out of a table only
after another one of its name, and tables are known by their headings.
-/
inductive Thinned : Option OpenTable → List Token → List Token → Prop where
  | nil {block : Option OpenTable}
    : Thinned block [] []
  | outside {ts us : List Token} (t : Token) (rest : Thinned none ts us)
    : Thinned none (t :: ts) (t :: us)
  | heading {ts us : List Token} (s : String) (comment : Option String) (n m : Nat)
    (names : (tableHeading? s).isSome = true) (rest : Thinned (some {}) ts us)
    : Thinned none (.text s comment n :: .opening m :: ts) (.text s comment n :: .opening m :: us)
  | reference {block : Option OpenTable} {ts us : List Token} (s : String)
    (comment : Option String) (n : Nat) (refers : (Ref.ofLine? s).isSome = true)
    (single : startsBlock ts = false) (rest : Thinned block ts us)
    : Thinned block (.text s comment n :: ts) us
  | opening {declared : List String} {inner : Nat} {ts us : List Token} (n : Nat)
    (rest : Thinned (some ⟨declared, inner + 1⟩) ts us)
    : Thinned (some ⟨declared, inner⟩) (.opening n :: ts) (.opening n :: us)
  | closing {declared : List String} {inner : Nat} {ts us : List Token} (n : Nat)
    (rest : Thinned (some ⟨declared, inner⟩) ts us)
    : Thinned (some ⟨declared, inner + 1⟩) (.closing n :: ts) (.closing n :: us)
  | closed {declared : List String} {ts us : List Token} (n : Nat) (rest : Thinned none ts us)
    : Thinned (some ⟨declared, 0⟩) (.closing n :: ts) (.closing n :: us)
  | line {block : OpenTable} {ts us : List Token} (s : String) (comment : Option String) (n : Nat)
    (rest : Thinned (some block) ts us)
    : Thinned (some block) (.text s comment n :: ts) (.text s comment n :: us)
  | field {declared : List String} {name : String} {ts us : List Token} (s : String)
    (comment : Option String) (n : Nat) (declares : BlockLine.Declares ⟨s, comment⟩ name)
    (single : startsBlock ts = false) (rest : Thinned (some ⟨name :: declared, 0⟩) ts us)
    : Thinned (some ⟨declared, 0⟩) (.text s comment n :: ts) (.text s comment n :: us)
  | repeated {declared : List String} {name : String} {ts us : List Token} (s : String)
    (comment : Option String) (n : Nat) (declares : BlockLine.Declares ⟨s, comment⟩ name)
    (single : startsBlock ts = false) (known : name ∈ declared)
    (rest : Thinned (some ⟨declared, 0⟩) ts us)
    : Thinned (some ⟨declared, 0⟩) (.text s comment n :: ts) us

namespace Thinned

variable {block : Option OpenTable} {ts us : List Token}

/-- What is left begins with a block if all did, by induction. -/
theorem startsBlock_eq (h : Thinned block ts us)
    : startsBlock us = startsBlock ts := by
  induction h with
  | nil => rfl
  | outside t _ _ => cases t <;> rfl
  | heading => rfl
  | reference s comment n refers single rest ih => exact ih.trans single
  | opening => rfl
  | closing => rfl
  | closed => rfl
  | line => rfl
  | field => rfl
  | repeated s comment n declares single known rest ih => exact ih.trans single

/-- Whether braces pair up depends on the first token and on how the others pair up. -/
theorem bracesPair_cons_congr (h : ∀ depth, bracesPair depth us = bracesPair depth ts) (t : Token)
    (depth : Nat)
    : bracesPair depth (t :: us) = bracesPair depth (t :: ts) := by
  cases t with
  | text s comment n => exact h depth
  | opening n => exact h (depth + 1)
  | closing n =>
      cases depth with
      | zero => rfl
      | succ depth => exact h depth

/-- No brace is left out, by induction. -/
theorem bracesPair_eq (h : Thinned block ts us)
    : ∀ depth, bracesPair depth us = bracesPair depth ts := by
  induction h with
  | nil => exact fun _ => rfl
  | outside t rest ih => exact bracesPair_cons_congr ih t
  | heading s comment n m names rest ih => exact fun depth => ih (depth + 1)
  | reference s comment n refers single rest ih => exact ih
  | opening n rest ih => exact bracesPair_cons_congr ih _
  | closing n rest ih => exact bracesPair_cons_congr ih _
  | closed n rest ih => exact bracesPair_cons_congr ih _
  | line s comment n rest ih => exact ih
  | field s comment n declares single rest ih => exact ih
  | repeated s comment n declares single known rest ih => exact ih

end Thinned

/-- A reference is no table heading: their keywords differ in the first letter. -/
theorem tableHeading?_of_ref {s : String} (h : (Ref.ofLine? s).isSome = true)
    : tableHeading? s = none := by
  obtain ⟨r, hr⟩ := Option.isSome_iff_exists.mp h
  obtain ⟨⟨r', rest⟩, hs, _⟩ := Option.bind_eq_some_iff.mp hr
  obtain ⟨rest', hk, _⟩ := Option.bind_eq_some_iff.mp hs
  cases hc : s.toList with
  | nil =>
      rw [hc] at hk
      cases hk
  | cons c cs =>
      rw [hc, Scan.keyword] at hk
      have hf : Text.foldCase c = Text.foldCase 'r' := by
        by_contra hne
        rw [if_neg hne] at hk
        cases hk
      have hne : Text.foldCase c ≠ Text.foldCase 't' := by
        rw [hf]
        decide
      rw [tableHeading?, hc, Scan.keyword, if_neg hne]
      rfl

/-- Table headings are not left out altogether, by induction. -/
theorem Thinned.any_isTableHeading {ts us : List Token} (h : Thinned none ts us)
    (some : ts.any Token.isTableHeading = true)
    : us.any Token.isTableHeading = true := by
  generalize hb : (none : Option OpenTable) = block at h
  induction h with
  | nil => exact some
  | outside t rest ih =>
      rw [List.any_cons, Bool.or_eq_true] at some ⊢
      exact some.imp_right fun h => ih h hb
  | heading s comment n m names rest ih =>
      exact List.any_eq_true.mpr ⟨_, List.mem_cons_self, names⟩
  | reference s comment n refers single rest ih =>
      rw [List.any_cons, Token.isTableHeading, tableHeading?_of_ref refers] at some
      exact ih some hb
  | _ => cases hb

-----------------------------------------------------------------------------------------
-- The lines of a block
-----------------------------------------------------------------------------------------

/-- Whether the latter lines of a table are the former less references and repeated fields,
given the fields that were declared before them.
-/
structure BodyThinned (declared : List String) (body body' : List BlockLine) : Prop where
  fields : (body'.filterMap BlockLine.field?).Sublist (body.filterMap BlockLine.field?)
  names
    : ∀ f ∈ body.filterMap BlockLine.field?,
        f.name ∈ declared ∨ ∃ f' ∈ body'.filterMap BlockLine.field?, f'.name = f.name
  note : body'.findSome? BlockLine.note? = body.findSome? BlockLine.note?

namespace BodyThinned

variable {declared : List String} {body body' : List BlockLine}

theorem nil
    : BodyThinned declared [] [] where
  fields := .slnil
  names _ hf := nomatch hf
  note := rfl

/-- The fields of a line and of those after it. -/
theorem mem_fields_cons {l : BlockLine} {f : Field}
    : f ∈ (l :: body).filterMap BlockLine.field?
      ↔ l.field? = some f ∨ f ∈ body.filterMap BlockLine.field? := by
  rw [List.filterMap_cons]
  cases l.field? with
  | none => simp
  | some g => simp [eq_comm]

/-- A line may be left in both, and then the fields that it declares are declared for the lines
after it.
-/
theorem cons {known : List String} (h : BodyThinned known body body') {l : BlockLine}
    (new : ∀ name ∈ known, name ∈ declared ∨ l.Declares name)
    : BodyThinned declared (l :: body) (l :: body') where
  fields := by
    cases hl : l.field? with
    | none => simpa [hl] using h.fields
    | some f => simpa [hl] using h.fields
  names f hf := by
    rcases mem_fields_cons.mp hf with hf | hf
    · exact .inr ⟨f, mem_fields_cons.mpr (.inl hf), rfl⟩
    · rcases h.names f hf with hn | ⟨f', hf', hn⟩
      · refine (new f.name hn).imp_right fun hl => ?_
        obtain ⟨f', hf', hn⟩ := hl
        exact ⟨f', mem_fields_cons.mpr (.inl hf'), hn⟩
      · exact .inr ⟨f', mem_fields_cons.mpr (.inr hf'), hn⟩
  note := by rw [List.findSome?_cons, List.findSome?_cons, h.note]

/-- A line that is no note may be left out if it declares no field but one that was declared
before.
-/
theorem drop (h : BodyThinned declared body body') {l : BlockLine} (noNote : l.note? = none)
    (known : ∀ f, l.field? = some f → f.name ∈ declared)
    : BodyThinned declared (l :: body) body' where
  fields := by
    cases hl : l.field? with
    | none => simpa [hl] using h.fields
    | some f => simpa [hl] using h.fields.cons f
  names f hf := by
    rcases mem_fields_cons.mp hf with hf | hf
    · exact .inl (known f hf)
    · exact h.names f hf
  note := by rw [List.findSome?_cons, noNote, h.note]

/-- A field that was declared before may be left out, since its line is no note. -/
theorem drop_field {l : BlockLine} {name : String} (declares : l.Declares name)
    (known : name ∈ declared) (h : BodyThinned declared body body')
    : BodyThinned declared (l :: body) body' := by
  obtain ⟨f, hl, rfl⟩ := declares
  refine h.drop ?_ fun g hg => Option.some.inj (hl.symm.trans hg) ▸ known
  rw [BlockLine.field?] at hl
  split at hl
  · cases hl
  · rename_i hno
    rw [Bool.not_eq_true, Bool.or_eq_false_iff, Option.isSome_eq_false_iff,
      Option.isSome_eq_false_iff, Option.isNone_iff_eq_none, Option.isNone_iff_eq_none] at hno
    rw [BlockLine.note?, hno.1, hno.2]
    rfl

/-- A reference may be left out, since it is neither a field nor a note. -/
theorem drop_ref {l : BlockLine} (refers : (Ref.ofLine? l.text).isSome = true)
    (h : BodyThinned declared body body')
    : BodyThinned declared (l :: body) body' := by
  refine h.drop ?_ fun f hf => ?_
  · rw [BlockLine.note?, BlockLine.ref?, refers]
    rfl
  · rw [BlockLine.field?, BlockLine.ref?, refers] at hf
    cases hf

end BodyThinned

-----------------------------------------------------------------------------------------
-- Reading what is left
-----------------------------------------------------------------------------------------

/-- How many inner blocks are open when a block is read, against the table block that is known
to be open: none, the one that is read, or one inside of it. Only if it is the one that is read
do the fields that were declared in it count.
-/
inductive Within : Nat → Option OpenTable → List String → Prop where
  | outside (depth : Nat)
    : Within depth none []
  | own (declared : List String) (inner : Nat)
    : Within inner (some ⟨declared, inner⟩) declared
  | nested (declared : List String) (inner above : Nat)
    : Within (above + 1 + inner) (some ⟨declared, inner⟩) []

/-- Whether two results of reading a block agree but for references and repeated fields, given
the fields that were declared in the block.
-/
def BlockThinned (declared : List String) (block block' : List BlockLine × List Token) : Prop :=
  BodyThinned declared block.1 block'.1 ∧ Thinned none block.2 block'.2

variable {depth : Nat} {declared : List String} {ts us : List Token}

/-- A line may be left in both. -/
theorem BlockThinned.text (h : BlockThinned declared (blockLines depth ts) (blockLines depth us))
    (single : startsBlock us = startsBlock ts) (s : String) (comment : Option String) (n : Nat)
    : BlockThinned declared (blockLines depth (.text s comment n :: ts))
        (blockLines depth (.text s comment n :: us)) := by
  rw [blockLines_text, blockLines_text, single]
  refine ⟨?_, h.2⟩
  split
  · exact h.1.cons fun _ => .inl
  · exact h.1

/-- What is left of a block is read as the block less references and repeated fields, and what
follows it outside of tables is left in the same way. By induction on the tokens.
-/
theorem Thinned.blockLines {block : Option OpenTable} (h : Thinned block ts us)
    : ∀ depth declared, Within depth block declared
      → BlockThinned declared (blockLines depth ts) (blockLines depth us) := by
  induction h with
  | nil => exact fun depth declared _ => ⟨.nil, .nil⟩
  | @outside ts us t rest ih =>
      intro depth declared hw
      obtain ⟨depth⟩ := hw
      cases t with
      | text s comment n =>
          exact (ih depth [] (.outside depth)).text rest.startsBlock_eq s comment n
      | opening n => exact ih (depth + 1) [] (.outside _)
      | closing n =>
          cases depth with
          | zero => exact ⟨.nil, rest⟩
          | succ depth => exact ih depth [] (.outside depth)
  | @heading ts us s comment n m names rest ih =>
      intro depth declared hw
      obtain ⟨depth⟩ := hw
      -- The heading opens a table inside of the block that is read, whose lines do not count.
      have inside : BlockThinned [] (Markup.blockLines depth (.opening m :: ts))
          (Markup.blockLines depth (.opening m :: us)) :=
        ih (depth + 1) [] (.nested [] 0 depth)
      exact inside.text rfl s comment n
  | @reference block ts us s comment n refers single rest ih =>
      intro depth declared hw
      have h := ih depth declared hw
      rw [blockLines_text]
      refine ⟨?_, h.2⟩
      split
      · exact h.1.drop_ref refers
      · exact h.1
  | @opening known inner ts us n rest ih =>
      intro depth declared hw
      cases hw with
      | own => exact ih (inner + 1) known (.own known (inner + 1))
      | nested _ _ above => exact ih (above + 1 + (inner + 1)) [] (.nested known (inner + 1) above)
  | @closing known inner ts us n rest ih =>
      intro depth declared hw
      cases hw with
      | own => exact ih inner known (.own known inner)
      | nested _ _ above => exact ih (above + 1 + inner) [] (.nested known inner above)
  | closed n rest ih =>
      intro depth declared hw
      -- Either the block that is read ends here, or a table inside of it.
      cases hw with
      | own => exact ⟨.nil, rest⟩
      | nested _ _ above => exact ih above [] (.outside above)
  | @line block ts us s comment n rest ih =>
      intro depth declared hw
      exact (ih depth declared hw).text rest.startsBlock_eq s comment n
  | @field known name ts us s comment n declares single rest ih =>
      intro depth declared hw
      cases hw with
      | own =>
          have h := ih 0 (name :: known) (.own _ 0)
          have new : ∀ n ∈ name :: known, n ∈ known ∨ BlockLine.Declares ⟨s, comment⟩ n := by
            intro n hn
            rcases List.mem_cons.mp hn with rfl | hn
            · exact .inr declares
            · exact .inl hn
          rw [blockLines_text, blockLines_text, rest.startsBlock_eq, single]
          exact ⟨h.1.cons new, h.2⟩
      | nested _ _ above =>
          have h := ih (above + 1) [] (.nested _ 0 above)
          exact h.text rest.startsBlock_eq s comment n
  | @repeated known name ts us s comment n declares single listed rest ih =>
      intro depth declared hw
      rw [blockLines_text]
      cases hw with
      | own =>
          have h := ih 0 known (.own _ 0)
          rw [single]
          exact ⟨h.1.drop_field declares listed, h.2⟩
      | nested _ _ above => exact ih (above + 1) [] (.nested _ 0 above)

/-- The tables that statements make. -/
def tablesOf (statements : List Statement) : List Table :=
  statements.filterMap Statement.table?

/-- A block that lacks only references and repeated fields makes the same kind of statement. -/
theorem BodyThinned.tablesOf_ofBlock? {body body' : List BlockLine} (h : BodyThinned [] body body')
    (heading : String)
    : List.Forall₂ Table.RepeatsDropped (tablesOf (Statement.ofBlock? heading body).toList)
        (tablesOf (Statement.ofBlock? heading body').toList) := by
  rw [Statement.ofBlock?, Statement.ofBlock?]
  split
  · refine .cons ⟨rfl, h.note, h.fields, fun x => ?_⟩ .nil
    constructor
    · exact fun hx => (h.fields.map Field.name).subset hx
    · intro hx
      obtain ⟨f, hf, rfl⟩ := List.mem_map.mp hx
      obtain ⟨f', hf', hn⟩ := (h.names f hf).resolve_left List.not_mem_nil
      exact hn ▸ List.mem_map_of_mem hf'
  · cases groupHeading? heading <;> exact .nil

/-- What is left makes the same tables less repeated fields. By induction on the tokens, block
by block.
-/
theorem Thinned.tablesOf_ofTokens (h : Thinned none ts us)
    : List.Forall₂ Table.RepeatsDropped (tablesOf (Statement.ofTokens ts))
        (tablesOf (Statement.ofTokens us)) := by
  have append {ss ss' rs rs' : List Statement}
      (hs : List.Forall₂ Table.RepeatsDropped (tablesOf ss) (tablesOf ss'))
      (hr : List.Forall₂ Table.RepeatsDropped (tablesOf rs) (tablesOf rs'))
      : List.Forall₂ Table.RepeatsDropped (tablesOf (ss ++ rs)) (tablesOf (ss' ++ rs')) := by
    rw [tablesOf, tablesOf, List.filterMap_append, List.filterMap_append]
    exact List.rel_append hs hr
  fun_induction Statement.ofTokens ts generalizing us with
  | case1 =>
      cases h
      rw [Statement.ofTokens_nil]
      exact .nil
  | case2 n ts ih =>
      obtain _ | ⟨_, rest⟩ := h
      rw [Statement.ofTokens]
      exact ih rest
  | case3 n ts ih =>
      obtain _ | ⟨_, rest⟩ := h
      rw [skipBlock_eq] at ih ⊢
      rw [Statement.ofTokens, skipBlock_eq]
      exact ih (rest.blockLines 0 [] (.outside 0)).2
  | case4 s comment n r ts hr ih =>
      cases h with
      | outside _ rest =>
          rw [ofTokens_ref hr]
          exact ih rest
      | heading _ _ _ m names rest =>
          rw [tableHeading?_of_ref (by rw [hr]; rfl)] at names
          cases names
      | reference _ _ _ refers single rest => exact ih rest
  | case5 s comment n m ts hr ih =>
      rw [readBlock_eq] at ih ⊢
      cases h with
      | outside _ rest =>
          obtain _ | ⟨_, rest⟩ := rest
          have h := rest.blockLines 0 [] (.outside 0)
          rw [ofTokens_block hr]
          exact append (h.1.tablesOf_ofBlock? s) (ih h.2)
      | heading _ _ _ _ names rest =>
          have h := rest.blockLines 0 [] (.own [] 0)
          rw [ofTokens_block hr]
          exact append (h.1.tablesOf_ofBlock? s) (ih h.2)
      | reference _ _ _ refers single rest => cases single
  | case6 s comment n ts hne hr ih =>
      cases h with
      | outside _ rest =>
          have hs : startsBlock ts = false := startsBlock_eq_false hne
          rw [ofTokens_text hr (rest.startsBlock_eq.trans hs)]
          exact ih rest
      | heading _ _ _ m names rest => exact absurd rfl (hne _ _)
      | reference _ _ _ refers single rest => exact ih rest

end Markup
end SchemaMarkup
