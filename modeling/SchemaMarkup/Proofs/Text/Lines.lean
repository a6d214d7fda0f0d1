import Mathlib.Data.List.Basic
import Mathlib.Data.String.Basic
import SchemaMarkup.Text.Blank
import SchemaMarkup.Text.Lines

/-! The lines of a text. Texts without line boundaries, each ended by a line feed, are the lines of
the whole, and no line of a text holds a boundary.
-/

namespace SchemaMarkup.Text

/-- Whether no line ends within a text. -/
def IsUnbroken (cs : List Char) : Prop :=
  ∀ c ∈ cs, isLineEnd c = false

instance (cs : List Char) : Decidable (IsUnbroken cs) :=
  decidable_of_iff (cs.all (! isLineEnd ·) = true) (by simp [IsUnbroken])

/-- A line ends at white space, though not at a space. -/
theorem isBlank_of_isLineEnd {c : Char} (h : isLineEnd c = true)
    : isBlank c = true ∧ c ≠ ' ' := by
  constructor
  · simp only [isLineEnd, isBlank, Bool.or_eq_true, Bool.and_eq_true, decide_eq_true_eq,
      beq_iff_eq] at h ⊢
    omega
  · rintro rfl
    exact absurd h (by decide)

theorem isUnbroken_nil
    : IsUnbroken [] :=
  fun _ hc => nomatch hc

theorem IsUnbroken.newline_notMem {cs : List Char} (h : IsUnbroken cs)
    : '\n' ∉ cs :=
  fun hm => absurd (h _ hm) (by decide)

/-- Text without a boundary belongs to the line it stands on, by induction on that text. -/
theorem linesAfter_append {text : List Char} (h : IsUnbroken text) (line rest : List Char)
    : linesAfter line (text ++ '\n' :: rest) = (line.reverse ++ text) :: linesAfter [] rest := by
  induction text generalizing line with
  | nil =>
      have hn : isLineEnd '\n' = true := by decide
      have hr : ∀ cs, '\n' = '\r' → '\n' :: rest = '\r' :: '\n' :: cs → False :=
        fun _ he => absurd he (by decide)
      rw [List.nil_append, linesAfter, if_pos hn, List.append_nil]
      exact fun _ he => absurd he (by decide)
  | cons c text ih =>
      have hc : isLineEnd c = false := h c List.mem_cons_self
      have ih := ih (fun d hd => h d (List.mem_cons_of_mem c hd)) (c :: line)
      rw [List.cons_append, linesAfter, if_neg (by simp [hc]), ih]
      · simp
      · rintro _ rfl
        exact absurd hc (by decide)

/-- Texts without boundaries, each ended by a line feed, are lines of their own. -/
theorem linesAfter_flatMap {ls : List (List Char)} (h : ∀ l ∈ ls, IsUnbroken l) (rest : List Char)
    : linesAfter [] (ls.flatMap (· ++ ['\n']) ++ rest) = ls ++ linesAfter [] rest := by
  induction ls with
  | nil => rfl
  | cons l ls ih =>
      have ih := ih fun m hm => h m (List.mem_cons_of_mem l hm)
      rw [List.flatMap_cons, List.append_assoc, List.append_assoc, List.singleton_append,
        linesAfter_append (h l List.mem_cons_self), ih]
      rfl

/-- Every line is unbroken if the part already read is, along the recursion. -/
theorem isUnbroken_linesAfter {line cs : List Char} (h : IsUnbroken line)
    : ∀ l ∈ linesAfter line cs, IsUnbroken l := by
  have reversed {line : List Char} (h : IsUnbroken line) : IsUnbroken line.reverse :=
    fun c hc => h c (List.mem_reverse.mp hc)
  fun_induction linesAfter line cs with
  | case1 line none => exact fun _ hl => nomatch hl
  | case2 line some =>
      rintro l hl
      obtain rfl := List.mem_singleton.mp hl
      exact reversed h
  | case3 line cs ih =>
      rintro l hl
      rcases List.mem_cons.mp hl with rfl | hl
      · exact reversed h
      · exact ih isUnbroken_nil l hl
  | case4 line c cs _ ends ih =>
      rintro l hl
      rcases List.mem_cons.mp hl with rfl | hl
      · exact reversed h
      · exact ih isUnbroken_nil l hl
  | case5 line c cs _ inside ih =>
      refine ih ?_
      rintro d hd
      rcases List.mem_cons.mp hd with rfl | hd
      · simpa using inside
      · exact h d hd

/-- No line of a text holds a boundary. -/
theorem isUnbroken_of_mem_lines {text line : String} (h : line ∈ lines text)
    : IsUnbroken line.toList := by
  obtain ⟨l, hl, rfl⟩ := List.mem_map.mp h
  rw [String.toList_ofList]
  exact isUnbroken_linesAfter isUnbroken_nil l hl

/-- A text has no lines only if it is empty. -/
theorem linesAfter_eq_nil_iff {line cs : List Char}
    : linesAfter line cs = [] ↔ line = [] ∧ cs = [] := by
  fun_induction linesAfter line cs with
  | case1 line none => simpa using none
  | case2 line some => simpa using some
  | case3 line cs ih => simp
  | case4 line c cs _ ends ih => simp
  | case5 line c cs _ inside ih => simp [ih]

/-- Lines joined tell what they were, since the line feeds between them are all there are. -/
theorem intercalate_newline_inj {ls ms : List String}
    (hl : ∀ l ∈ ls, '\n' ∉ l.toList) (hm : ∀ l ∈ ms, '\n' ∉ l.toList)
    (nl : ls ≠ []) (nm : ms ≠ []) (h : "\n".intercalate ls = "\n".intercalate ms)
    : ls = ms := by
  have split (ls : List String) (hl : ∀ l ∈ ls, '\n' ∉ l.toList) (nl : ls ≠ [])
      : ("\n".intercalate ls).toList.splitOn '\n' = ls.map String.toList := by
    rw [String.toList_intercalate]
    exact List.splitOn_intercalate '\n' (by simpa using hl) (by simpa using nl)
  have he := congrArg (fun s : String => s.toList.splitOn '\n') h
  rw [split ls hl nl, split ms hm nm] at he
  exact (List.map_inj_right fun _ _ => String.toList_inj.mp).mp he

end SchemaMarkup.Text
