import SchemaMarkup.Proofs.Markup.Layout
import SchemaMarkup.Proofs.Markup.Lines
import SchemaMarkup.Proofs.Markup.Statements

/-! Texts that make statements. Blocks and lines make theirs whatever text follows, so texts one
after the other make theirs in order, and empty lines and empty sections add nothing.
-/

namespace SchemaMarkup.Markup

open Text

/-- Whether a text that ends with its last line makes some statements, whatever follows. -/
def Declares (s : List Char) (sts : List Statement) : Prop :=
  ∃ ts, Reads s ts
    ∧ (∀ depth us, bracesPair depth (ts ++ us) = bracesPair depth us)
    ∧ ∀ us, Statement.ofTokens (ts ++ us) = sts ++ Statement.ofTokens us

theorem declares_nil
    : Declares [] [] :=
  ⟨[], reads_nil, fun _ _ => rfl, fun _ => rfl⟩

theorem declares_blank
    : Declares ['\n'] [] :=
  ⟨[], reads_blank, fun _ _ => rfl, fun _ => rfl⟩

/-- Texts one after the other make their statements one after the other. -/
theorem Declares.append {s t : List Char} {ss ts : List Statement} (hs : Declares s ss)
    (ht : Declares t ts)
    : Declares (s ++ t) (ss ++ ts) := by
  obtain ⟨us, hus, hub, huo⟩ := hs
  obtain ⟨vs, hvs, hvb, hvo⟩ := ht
  refine ⟨us ++ vs, hus.append hvs, ?_, ?_⟩
  · intro depth ws
    rw [List.append_assoc, hub, hvb]
  · intro ws
    rw [List.append_assoc, huo, hvo, List.append_assoc]

/-- An empty line makes no other statements, since a text stands for one sequence of tokens. -/
theorem Declares.eq_nil {sts : List Statement} (h : Declares ['\n'] sts)
    : sts = [] := by
  obtain ⟨ts, hr, _, ho⟩ := h
  have hts : ts = [] := hr.eq reads_blank
  rw [hts] at ho
  exact List.self_eq_append_left.mp (ho [])

theorem declares_replicate {s : List Char} {sts : List Statement} (h : Declares s sts) (n : Nat)
    : Declares (List.replicate n '\n' ++ s) sts := by
  induction n with
  | zero => exact h
  | succ n ih => exact declares_blank.append ih

/-- Texts joined with line feeds make the statements of each, by induction. -/
theorem declares_intercalate {α : Type} {text : α → String} {made : α → List Statement}
    {xs : List α} (h : ∀ x ∈ xs, Declares ((text x).toList ++ ['\n']) (made x)) {sep : String}
    {n : Nat} (hs : sep.toList = List.replicate (n + 1) '\n')
    : Declares ((sep.intercalate (xs.map text)).toList ++ ['\n']) (xs.flatMap made) := by
  induction xs with
  | nil => exact declares_blank
  | cons x xs ih =>
      have hx := h x List.mem_cons_self
      have hxs := ih fun y hy => h y (List.mem_cons_of_mem x hy)
      cases xs with
      | nil => simpa using hx
      | cons y ys =>
          have htext : (sep.intercalate ((x :: y :: ys).map text)).toList ++ ['\n']
              = (text x).toList ++ ['\n'] ++ (List.replicate n '\n'
                ++ ((sep.intercalate ((y :: ys).map text)).toList ++ ['\n'])) := by
            rw [List.map_cons, String.intercalate_cons_of_ne_nil (by simp)]
            simp [hs, List.replicate_succ]
          rw [htext, List.flatMap_cons]
          exact hx.append (declares_replicate hxs n)

/-- Sections make the statements of each, and an empty section that is left out makes none. -/
theorem declares_paragraphs {sections : List (String × List Statement)}
    (h : ∀ p ∈ sections, Declares (p.1.toList ++ ['\n']) p.2)
    : Declares (paragraphs (sections.map (·.1))).toList (sections.flatMap (·.2)) := by
  have hmade : sections.flatMap (·.2) = (sections.filter (·.1 ≠ "")).flatMap (·.2) := by
    induction sections with
    | nil => rfl
    | cons p ps ih =>
        rw [List.flatMap_cons, ih fun q hq => h q (List.mem_cons_of_mem p hq)]
        by_cases hp : p.1 = ""
        · have hd := h p List.mem_cons_self
          rw [hp] at hd
          simp [hp, hd.eq_nil]
        · simp [hp]
  have hfilter : (sections.map (·.1)).filter (· ≠ "")
      = (sections.filter (·.1 ≠ "")).map (·.1) := by
    rw [List.filter_map]
    rfl
  have hsep : "\n\n".toList = List.replicate (1 + 1) '\n' := rfl
  have hjoined
      : Declares
          (("\n\n".intercalate ((sections.filter (·.1 ≠ "")).map (·.1))).toList ++ ['\n'])
          ((sections.filter (·.1 ≠ "")).flatMap (·.2)) :=
    declares_intercalate (fun p hp => h p (List.mem_of_mem_filter hp)) hsep
  rw [hmade, paragraphs, hfilter]
  split
  · rename_i he
    rw [List.map_eq_nil_iff.mp he]
    exact declares_nil
  · rename_i t ts he
    rw [← he, String.toList_append]
    exact hjoined

/-- Lines that are one token each make up the lines of a block. -/
theorem reads_lines {α : Type} {text : α → String} {line : α → BlockLine} {xs : List α}
    (h : ∀ x ∈ xs, Reads ((text x).toList ++ ['\n']) [(line x).token])
    : Reads ((xs.map text).flatMap fun l => l.toList ++ ['\n'])
        ((xs.map line).map BlockLine.token) := by
  have hr := reads_flatMap h
  rw [← List.map_eq_flatMap] at hr
  rw [List.flatMap_map, List.map_map]
  exact hr

/-- The text of a block makes the statement of its heading and its lines. -/
theorem declares_block {heading : String} {ls : List String} {body : List BlockLine}
    (hs : Shut endsText heading.toList) (ht : IsTrimmed heading.toList) (hne : heading ≠ "")
    (hr : Ref.ofLine? heading = none)
    (hb : Reads (ls.flatMap fun l => l.toList ++ ['\n']) (body.map BlockLine.token))
    : Declares (("\n".intercalate ((heading ++ " \x7b") :: (ls ++ ["\x7d"]))).toList ++ ['\n'])
        (Statement.ofBlock? heading body).toList := by
  refine ⟨blockTokens heading body, ?_, ?_, ofTokens_blockTokens hr body⟩
  · have hall := (reads_heading hs ht hne).append (hb.append reads_closing)
    rw [toList_intercalate_lines (List.cons_ne_nil _ _), List.flatMap_cons, List.flatMap_append]
    exact hall
  · exact fun depth us => bracesPair_blockTokens depth heading body us

end SchemaMarkup.Markup
