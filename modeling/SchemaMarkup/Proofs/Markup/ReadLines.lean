import SchemaMarkup.Proofs.Markup.ScannedLines
import SchemaMarkup.Proofs.Markup.ScannedNames

/-! What is read from a line. The names in it can be put between double quotes, and what is read of
a field can be written again, as far as it opens no string that the rest of its line would be part
of.
-/

namespace SchemaMarkup

open Text

namespace Markup

/-- What is scanned as a reference is made of names. -/
theorem named_of_scanRef {cs rest : List Char} {r : Ref} (h : scanRef cs = some (r, rest))
    : r.Named := by
  obtain ⟨cs₁, _, h⟩ := Option.bind_eq_some_iff.mp h
  obtain ⟨cs₂, _, h⟩ := Option.bind_eq_some_iff.mp h
  obtain ⟨⟨⟨sourceTable, sourceField⟩, cs₃⟩, hs, h⟩ := Option.bind_eq_some_iff.mp h
  dsimp only at h
  split at h
  · cases h
  · obtain ⟨cardinality, _, h⟩ := Option.bind_eq_some_iff.mp h
    obtain ⟨⟨⟨targetTable, targetField⟩, cs₄⟩, ht, h⟩ := Option.bind_eq_some_iff.mp h
    obtain ⟨rfl, rfl⟩ := Prod.mk.inj (Option.some.inj h)
    obtain ⟨hst, hsf, _⟩ := Scan.fieldPath_eq_some hs
    obtain ⟨htt, htf, _⟩ := Scan.fieldPath_eq_some ht
    exact ⟨hst.isName, hsf.isName, htt.isName, htf.isName⟩

end Markup

open Markup

theorem Ref.named_of_ofLine? {line : String} {r : Ref} (h : Ref.ofLine? line = some r)
    : r.Named := by
  obtain ⟨⟨ref, cs⟩, hs, h⟩ := Option.bind_eq_some_iff.mp h
  dsimp only at h
  split at h
  · exact Option.some.inj h ▸ named_of_scanRef hs
  · cases h

namespace Markup

/-- The table that a heading names has a name. -/
theorem isName_of_tableHeading? {line name : String} (h : tableHeading? line = some name)
    : IsName name := by
  obtain ⟨cs₁, _, h⟩ := Option.bind_eq_some_iff.mp h
  obtain ⟨cs₂, _, h⟩ := Option.bind_eq_some_iff.mp h
  obtain ⟨⟨n, cs₃⟩, hn, h⟩ := Option.bind_eq_some_iff.mp h
  dsimp only at h
  split at h
  · exact Option.some.inj h ▸ Scan.isName_of_nameOf (by decide) hn
  · cases h

/-- What is scanned as a color is a word, perhaps after a number sign. -/
theorem isColor_of_scanColor {cs rest : List Char} {color : String}
    (h : scanColor cs = some (color, rest))
    : IsColor color := by
  obtain ⟨cs₁, _, h⟩ := Option.bind_eq_some_iff.mp h
  obtain ⟨cs₂, _, h⟩ := Option.bind_eq_some_iff.mp h
  obtain ⟨cs₃, _, h⟩ := Option.bind_eq_some_iff.mp h
  obtain ⟨⟨word, cs₄⟩, hw, h⟩ := Option.bind_eq_some_iff.mp h
  obtain ⟨cs₅, _, h⟩ := Option.bind_eq_some_iff.mp h
  obtain ⟨rfl, rfl⟩ := Prod.mk.inj (Option.some.inj h)
  obtain ⟨hne, hword, _⟩ := Scan.run_eq_some hw
  have hsign (cs : List Char)
      : (cs.takeWhile (· = '#')).take 1 = [] ∨ (cs.takeWhile (· = '#')).take 1 = ['#'] := by
    cases ht : cs.takeWhile (· = '#') with
    | nil => exact .inl rfl
    | cons c w =>
        have hc : c = '#' := by
          simpa using List.mem_takeWhile_imp (ht ▸ List.mem_cons_self : c ∈ cs.takeWhile (· = '#'))
        exact .inr (by rw [hc]; rfl)
  rcases hsign (Scan.blanks cs₃) with he | he
  · rw [he, List.nil_append]
    exact .inl (isWordText_iff.mpr (by simpa using ⟨hne, hword⟩))
  · rw [he]
    exact .inr ⟨by simp, isWordText_iff.mpr (by simpa using ⟨hne, hword⟩)⟩

/-- The group that a heading names has a name, and a color if one is set. -/
theorem heading_of_groupHeading? {line : String} {g : GroupHeading}
    (h : groupHeading? line = some g)
    : IsName g.name ∧ ∀ c ∈ g.color, IsColor c := by
  obtain ⟨cs₁, _, h⟩ := Option.bind_eq_some_iff.mp h
  obtain ⟨cs₂, _, h⟩ := Option.bind_eq_some_iff.mp h
  obtain ⟨⟨n, cs₃⟩, hn, h⟩ := Option.bind_eq_some_iff.mp h
  have hname := (Scan.name_eq_some hn).1.isName
  dsimp only at h
  cases hc : scanColor cs₃ with
  | none =>
      rw [hc] at h
      dsimp only at h
      split at h
      · obtain rfl := Option.some.inj h
        exact ⟨hname, nofun⟩
      · cases h
  | some p =>
      rw [hc] at h
      dsimp only at h
      split at h
      · obtain rfl := Option.some.inj h
        refine ⟨hname, ?_⟩
        rintro _ ⟨⟩
        exact isColor_of_scanColor hc
      · cases h

-----------------------------------------------------------------------------------------
-- Field lines
-----------------------------------------------------------------------------------------

/-- What is taken out of brackets stands before the closing one, which ends the line. -/
theorem closedBracket?_eq_some {cs inner : List Char} (h : closedBracket? cs = some inner)
    : cs = inner ++ [']'] ∨ cs = inner ++ [']', '\n'] := by
  rw [closedBracket?] at h
  split at h
  · rename_i r hr
    rw [← Option.some.inj h]
    exact .inl (by simpa using congrArg List.reverse hr)
  · rename_i r hr
    rw [← Option.some.inj h]
    exact .inr (by simpa using congrArg List.reverse hr)
  · cases h

/-- A field line is its name, a gap, its type and perhaps its constraints in brackets. -/
theorem fieldParts?_eq_some {cs : List Char} {parts : FieldParts} (h : fieldParts? cs = some parts)
    (trimmed : IsTrimmed cs)
    : ∃ gap type rest, cs = parts.name ++ (gap ++ (type ++ rest))
        ∧ Scan.Written parts.name
        ∧ gap ≠ [] ∧ (∀ c ∈ gap, isBlank c = true)
        ∧ '[' ∉ type ∧ parts.type = trim type
        ∧ (rest = [] ∧ parts.constraints = [] ∨ rest = '[' :: (parts.constraints ++ [']'])) := by
  obtain ⟨⟨n, cs₁⟩, hn, hp⟩ := Option.bind_eq_some_iff.mp h
  obtain ⟨hw, rfl⟩ := Scan.name_eq_some hn
  dsimp only at hp
  split at hp
  · cases hp
  · rename_i hgap
    have hcs : cs₁ = cs₁.takeWhile isBlank
        ++ ((cs₁.dropWhile isBlank).takeWhile (· ≠ '[')
          ++ (cs₁.dropWhile isBlank).dropWhile (· ≠ '[')) := by
      rw [List.takeWhile_append_dropWhile, List.takeWhile_append_dropWhile]
    have hne : cs₁.takeWhile isBlank ≠ [] := by
      intro he
      simp [he] at hgap
    have hblank : ∀ c ∈ cs₁.takeWhile isBlank, isBlank c = true := fun c => List.mem_takeWhile_imp
    have hfree : '[' ∉ (cs₁.dropWhile isBlank).takeWhile (· ≠ '[') := fun hm => by
      simpa using List.mem_takeWhile_imp hm
    split at hp
    · rename_i hr
      obtain rfl := Option.some.inj hp
      refine ⟨_, _, [], ?_, hw, hne, hblank, hfree, rfl, .inl ⟨rfl, rfl⟩⟩
      rw [← hr, ← hcs]
    · rename_i c rest hr
      obtain ⟨inner, hi, rfl⟩ := Option.map_eq_some_iff.mp hp
      obtain rfl : c = '[' := by
        have hd := List.head?_dropWhile_not (fun c : Char => decide (c ≠ '['))
          (cs₁.dropWhile isBlank)
        rw [hr] at hd
        simpa using hd
      refine ⟨_, _, _, congrArg _ hcs, hw, hne, hblank, hfree, rfl, .inr ?_⟩
      rcases closedBracket?_eq_some hi with rfl | rfl
      · exact hr
      · have hlast : '\n' ∈ (n ++ cs₁).getLast? := by
          rw [hcs, hr]
          simp [List.getLast?_append, List.getLast?_cons]
        exact absurd (trimmed.2 _ hlast) (by decide)

/-- The written form of a name opens no string, if the name does not between double quotes. -/
theorem Scan.Written.shut {n : List Char} (h : Scan.Written n)
    (closed : ClosedName (readName (String.ofList n)))
    : Shut endsText n := by
  have hpart : Shut endsPart n := by
    cases h with
    | word nonempty chars => exact shut_word chars
    | @quoted w nonempty chars =>
        have hw : readNameChars ('"' :: (w ++ ['"'])) = w := readNameChars_quoted w
        rwa [ClosedName, readName, String.toList_ofList, String.toList_ofList, hw] at closed
  exact hpart.mono fun _ => endsText_of_endsPart

theorem apart_of_isBlank {c : Char} {cs : List Char} (h : isBlank c = true)
    : Apart (c :: cs) := by
  obtain ⟨unquoted, slash⟩ := unquoted_of_isBlank h
  refine apart_cons ⟨?_, slash⟩
  rintro rfl
  cases unquoted

/-- The constraints of a field line leave no block open, if its name and its type close their
strings.
-/
theorem settled_constraints {cs : List Char} {parts : FieldParts} (h : fieldParts? cs = some parts)
    (trimmed : IsTrimmed cs) (settled : Settled endsText cs)
    (closed : ClosedName (readName (String.ofList parts.name))) (type : Shut endsText parts.type)
    : Settled endsText parts.constraints := by
  obtain ⟨gap, written, rest, rfl, hn, hgap, hblank, _, ht, hrest⟩ := fieldParts?_eq_some h trimmed
  rcases hrest with ⟨_, he⟩ | rfl
  · rw [he]
    exact shut_nil.settled
  · obtain ⟨before, after, hb, ha, hw⟩ := exists_padding written
    have unquoted {cs : List Char} (hcs : ∀ c ∈ cs, isBlank c = true)
        : ∀ c ∈ cs, Literal.isQuote c = false :=
      fun c hc => (unquoted_of_isBlank (hcs c hc)).1
    have bracket : ∀ c ∈ ['['], Literal.isQuote c = false := List.forall_mem_singleton.mpr rfl
    have apartGap (cs : List Char) : Apart (gap ++ cs) := by
      obtain ⟨c, gap, rfl⟩ := List.exists_cons_of_ne_nil hgap
      exact apart_of_isBlank (hblank c List.mem_cons_self)
    have apartType (cs : List Char) : Apart (after ++ '[' :: cs) := by
      cases after with
      | nil => exact apart_cons (by decide)
      | cons c after => exact apart_of_isBlank (ha c List.mem_cons_self)
    rw [hw, ← ht] at settled
    simp only [List.append_assoc] at settled
    have afterName := (hn.shut closed).settled_rest (apartGap _) settled
    have fromType := (afterName.of_unquoted (unquoted hblank)).of_unquoted (unquoted hb)
    have afterType := type.settled_rest (apartType _) fromType
    have opened : Settled endsText (['['] ++ (parts.constraints ++ [']'])) :=
      afterType.of_unquoted (unquoted ha)
    exact (opened.of_unquoted bracket).of_concat rfl (by decide)

end Markup

/-- Whether a field is one that has been read. Its constraints can be joined and cut again if its
name and its type close their strings.
-/
structure Field.Read (f : Field) : Prop where
  name : IsName f.name
  trimmed : IsTrimmed f.type.toList
  unbracketed : '[' ∉ f.type.toList
  constraints : ∀ c ∈ f.constraints, c ≠ "" ∧ IsTrimmed c.toList ∧ noteValue? c = none
  separable : ClosedName f.name → Shut endsText f.type.toList → Separable f.constraints

/-- A field that a line declares is one that has been read. -/
theorem Field.read_of_ofLine? {line : String} {f : Field} (h : Field.ofLine? line = some f)
    (trimmed : IsTrimmed line.toList) (settled : Settled endsText line.toList)
    : f.Read := by
  obtain ⟨parts, hp, h⟩ := Option.bind_eq_some_iff.mp h
  obtain ⟨gap, written, rest, _, hn, _, _, hfree, ht, _⟩ := fieldParts?_eq_some hp trimmed
  dsimp only at h
  split at h
  · cases h
  · obtain rfl := Option.some.inj h
    refine ⟨hn.isName, ?_, ?_, ?_, ?_⟩
    · rw [String.toList_ofList, ht]
      exact isTrimmed_trim written
    · rw [String.toList_ofList, ht]
      intro hm
      obtain ⟨before, after, _, _, hw⟩ := exists_padding written
      refine hfree ?_
      rw [hw]
      exact List.mem_append_left _ (List.mem_append_right _ hm)
    · intro c hc
      obtain ⟨hm, hnote⟩ := List.mem_filter.mp hc
      obtain ⟨hne, hc⟩ := trimmed_of_mem_splitCommas hm
      exact ⟨hne, hc, by simpa using hnote⟩
    · intro closed type
      rw [String.toList_ofList] at type
      refine separable_splitCommas ?_ _
      rw [String.toList_ofList]
      exact settled_constraints hp trimmed settled closed type

end SchemaMarkup
