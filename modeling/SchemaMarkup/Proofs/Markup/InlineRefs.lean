import SchemaMarkup.Merge.Rename
import SchemaMarkup.Proofs.Markup.ScannedNames

/-! Inline references. Their parts are names as they may be written, and a reference that is
pointed at another table leads to that table and nowhere else, whatever characters its name has.
-/

namespace SchemaMarkup.Markup

open Text

namespace Scan

/-- A written name ends in a word character or a quote. -/
theorem Written.getLast {n : List Char} (h : Written n) {c : Char} (hc : c ∈ n.getLast?)
    : isWord c = true ∨ c = '"' := by
  cases h with
  | word _ chars => exact .inl (chars c (List.mem_of_mem_getLast? hc))
  | @quoted w _ _ =>
      rw [← List.cons_append, List.getLast?_concat] at hc
      exact .inr (Option.some.inj hc).symm

theorem Written.visible_getLast {n : List Char} (h : Written n) {c : Char} (hc : c ∈ n.getLast?)
    : isBlank c = false := by
  rcases h.getLast hc with hw | rfl
  · exact isBlank_of_isWord hw
  · decide

theorem Written.ne_nil {n : List Char} (h : Written n)
    : n ≠ [] := by
  cases h with
  | word nonempty _ => exact nonempty
  | quoted _ _ => exact List.cons_ne_nil _ _

/-- A quote before a dot and a written name belongs to no written name that goes on to the
end: a word has no quote, and a quoted text has none but the two around it.
-/
theorem not_written_append {b f : List Char} (hf : Written f)
    : ¬ Written (b ++ '"' :: '.' :: f) := by
  intro h
  have hlast : (b ++ '"' :: '.' :: f).getLast? = f.getLast? := by
    have ha : b ++ '"' :: '.' :: f = (b ++ ['"', '.']) ++ f := by simp
    rw [ha, List.getLast?_append_of_ne_nil _ hf.ne_nil]
  generalize ht : b ++ '"' :: '.' :: f = t at h hlast
  have hcount : t.count '"' = b.count '"' + 1 + f.count '"' := by
    rw [← ht]
    simp
    omega
  cases h with
  | word _ chars =>
      have hq : isWord '"' = true := chars '"' (by simp [← ht])
      exact absurd hq (by decide)
  | @quoted w _ free =>
      have hquotes : ('"' :: (w ++ ['"'])).count '"' = 2 := by
        simp [List.count_eq_zero_of_not_mem free]
      cases hf with
      | word _ chars =>
          rw [← List.cons_append, List.getLast?_concat] at hlast
          have hq : isWord '"' = true := chars '"' (List.mem_of_mem_getLast? hlast.symm)
          exact absurd hq (by decide)
      | @quoted u _ _ =>
          simp at hcount hquotes
          omega


/-- A written table name before a dot and a written field name is scanned as it stands, if it is
scanned up to the end.
-/
theorem table_of_fieldPath {table : String} {field t f rest : List Char} (hf : Written field)
    (h : fieldPath ((writeName table).toList ++ '.' :: field) = some ((t, f), rest))
    (hend : atEnd rest = true)
    : t = (writeName table).toList := by
  obtain ⟨ht, hf', he⟩ := fieldPath_eq_some h
  have hrest : rest = [] := by
    rw [atEnd, Bool.or_eq_true, decide_eq_true_eq, decide_eq_true_eq] at hend
    rcases hend with hnil | hfeed
    · exact hnil
    · have hlast : '\n' ∈ field.getLast? := by
        have hl := congrArg List.getLast? he
        rw [hfeed, List.getLast?_append_of_ne_nil _ (List.cons_ne_nil _ _),
          List.getLast?_append_of_ne_nil _ (List.cons_ne_nil _ _), ← List.singleton_append,
          List.getLast?_append_of_ne_nil _ hf.ne_nil, ← List.cons_append,
          List.getLast?_concat] at hl
        exact hl
      exact absurd (hf.visible_getLast hlast) (by decide)
  rw [hrest, List.append_nil] at he
  rcases toList_writeName table with ⟨hw, hn⟩ | hn
  · rw [hn] at he ⊢
    have hword := (isWordText_iff.mp hw).2
    cases ht with
    | word _ chars =>
        have htake := congrArg (List.takeWhile isWord) he
        have hdot : isWord '.' = false := by decide
        simpa [List.takeWhile_append_of_pos hword, List.takeWhile_append_of_pos chars, hdot]
          using htake.symm
    | quoted _ _ =>
        obtain ⟨c, cs, hc⟩ := List.exists_cons_of_ne_nil (isWordText_iff.mp hw).1
        rw [hc] at he hword
        have hq : isWord '"' = true := (List.cons.inj he).1 ▸ hword c List.mem_cons_self
        exact absurd hq (by decide)
  · rw [hn] at he ⊢
    cases ht with
    | word nonempty chars =>
        obtain ⟨c, cs, rfl⟩ := List.exists_cons_of_ne_nil nonempty
        have hq : isWord '"' = true := (List.cons.inj he).1 ▸ chars c List.mem_cons_self
        exact absurd hq (by decide)
    | @quoted w _ free =>
        -- The two closing quotes are one, or one of the texts before them holds a quote.
        have hv : table.toList ++ '"' :: '.' :: field = w ++ '"' :: '.' :: f := by
          simpa using he
        rcases List.append_eq_append_iff.mp hv with ⟨bs, rfl, hb⟩ | ⟨bs, hb, hb'⟩
        · cases bs with
          | nil => rw [List.append_nil]
          | cons b bs =>
              rw [List.cons_append, List.cons.injEq] at hb
              exact absurd (by simp [← hb.1]) free
        · rw [hb]
          rcases bs with _ | ⟨b, _ | ⟨b', bs⟩⟩
          · rw [List.append_nil]
          · simp at hb'
          · have hf'' : f = bs ++ '"' :: '.' :: field := by
              simpa using (List.cons.inj (List.cons.inj hb').2).2
            exact absurd (hf'' ▸ hf') (not_written_append hf)

end Scan

namespace InlineRef

/-- The parts of an inline reference are written names. -/
theorem written_of_ofConstraint? {constraint : String} {r : InlineRef}
    (h : ofConstraint? constraint = some r)
    : Scan.Written r.table.toList ∧ Scan.Written r.field.toList := by
  obtain ⟨cs₁, _, h⟩ := Option.bind_eq_some_iff.mp h
  obtain ⟨cs₂, _, h⟩ := Option.bind_eq_some_iff.mp h
  split at h
  · cases h
  · obtain ⟨cardinality, _, h⟩ := Option.bind_eq_some_iff.mp h
    obtain ⟨⟨⟨table, field⟩, cs₃⟩, hpath, h⟩ := Option.bind_eq_some_iff.mp h
    dsimp only at h
    split at h
    · obtain ⟨ht, hf, _⟩ := Scan.fieldPath_eq_some hpath
      rw [← Option.some.inj h, String.toList_ofList, String.toList_ofList]
      exact ⟨ht, hf⟩
    · cases h

theorem toList_retarget (r : InlineRef) (table : String)
    : (r.retarget table).toList
      = 'r' :: 'e' :: 'f' :: ':' :: ' ' :: r.cardinality.symbol :: ' '
        :: ((writeName table).toList ++ '.' :: r.field.toList) := by
  unfold retarget
  simp

/-- A retargeted reference is trimmed, since it ends in a written name. -/
theorem isTrimmed_retarget {r : InlineRef} (hf : Scan.Written r.field.toList) (table : String)
    : IsTrimmed (r.retarget table).toList := by
  have hfield : ∀ c ∈ r.field.toList.getLast?, isBlank c = false := fun c hc =>
    hf.visible_getLast hc
  have hlast := getLast_append hfield hf.ne_nil
    ('r' :: 'e' :: 'f' :: ':' :: ' ' :: r.cardinality.symbol :: ' '
      :: ((writeName table).toList ++ ['.']))
  have htext := toList_retarget r table
  refine ⟨?_, ?_⟩
  · intro c hc
    rw [htext] at hc
    obtain rfl := Option.some.inj hc
    decide
  · rw [htext]
    simpa using hlast

/-- A retargeted reference is read from the path it was written with. -/
theorem ofConstraint?_retarget {r : InlineRef} (hf : Scan.Written r.field.toList)
    (table : String)
    : ofConstraint? (r.retarget table)
      = (Scan.fieldPath ((writeName table).toList ++ '.' :: r.field.toList)).bind fun p =>
          if Scan.atEnd p.2 then
            some ⟨r.cardinality, String.ofList p.1.1, String.ofList p.1.2⟩
          else none := by
  have hkey (cs : List Char)
      : Scan.keyword ['r', 'e', 'f'] ('r' :: 'e' :: 'f' :: cs) = some cs := rfl
  have hcolon (cs : List Char) : Scan.char ':' (Scan.blanks (':' :: cs)) = some cs := rfl
  have hsymbol (cs : List Char)
      : Scan.blanks (r.cardinality.symbol :: cs) = r.cardinality.symbol :: cs := by
    cases r.cardinality <;> rfl
  rw [ofConstraint?, (isTrimmed_retarget hf table).trim_eq, toList_retarget]
  simp only [hkey, hcolon, hsymbol, Scan.blanks_space, Scan.blanks_writeName,
    Cardinality.ofSymbol?_symbol, Option.bind_eq_bind, Option.bind_some]

/-- An inline reference that is pointed at a table whose name can be put between quotes is read as
it was, but for its table.
-/
theorem ofConstraint?_retarget_isName {r : InlineRef} (hf : Scan.Written r.field.toList)
    {table : String} (ht : IsName table)
    : ofConstraint? (r.retarget table) = some { r with table := writeName table } := by
  have ends : ∀ c ∈ ([] : List Char).head?, isWord c = false := nofun
  have path := Scan.fieldPath_append (Scan.written_writeName ht) hf ends
  rw [List.append_nil] at path
  rw [ofConstraint?_retarget hf, path]
  simp [Scan.atEnd]

/-- An inline reference that is pointed at another table leads there, unless quotes in the name
of that table keep it from being read as a reference.
-/
theorem target_retarget {constraint table : String} {r r' : InlineRef}
    (h : ofConstraint? constraint = some r) (h' : ofConstraint? (r.retarget table) = some r')
    : r'.target = table := by
  have hf := (written_of_ofConstraint? h).2
  rw [ofConstraint?_retarget hf] at h'
  obtain ⟨⟨⟨t, f⟩, rest⟩, hpath, h'⟩ := Option.bind_eq_some_iff.mp h'
  split at h'
  · rename_i hend
    rw [← Option.some.inj h', target, Scan.table_of_fieldPath hf hpath hend,
      String.ofList_toList, readName_writeName]
  · cases h'

end InlineRef
end SchemaMarkup.Markup
