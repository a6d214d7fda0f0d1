import SchemaMarkup.Proofs.Markup.FieldLines
import SchemaMarkup.Proofs.Markup.Lexemes

/-! Written lines as tokens. Every line that is written for a plain schema ends where its line
feed stands, and the scanner makes one token of it, or one of its heading and one of its brace.
-/

namespace SchemaMarkup.Markup

open Text Token

/-- Whether a text that ends with its last line stands for some tokens, whatever follows. -/
def Reads (s : List Char) (ts : List Token) : Prop :=
  ∀ cs, scanned [] none (s ++ cs) = ts ++ scanned [] none cs

theorem reads_nil
    : Reads [] [] :=
  fun _ => rfl

/-- Texts one after the other stand for their tokens one after the other. -/
theorem Reads.append {s t : List Char} {ts us : List Token} (hs : Reads s ts) (ht : Reads t us)
    : Reads (s ++ t) (ts ++ us) := by
  intro cs
  rw [List.append_assoc, hs, ht, List.append_assoc]

/-- A list of texts is read text by text, by induction. -/
theorem reads_flatMap {α : Type} {text : α → List Char} {tokens : α → List Token} {xs : List α}
    (h : ∀ x ∈ xs, Reads (text x) (tokens x))
    : Reads (xs.flatMap text) (xs.flatMap tokens) := by
  induction xs with
  | nil => exact reads_nil
  | cons x xs ih =>
      rw [List.flatMap_cons, List.flatMap_cons]
      exact (h x List.mem_cons_self).append (ih fun y hy => h y (List.mem_cons_of_mem x hy))

theorem Reads.eq {s : List Char} {ts us : List Token} (ht : Reads s ts) (hu : Reads s us)
    : ts = us :=
  List.append_cancel_right ((ht []).symm.trans (hu []))

theorem blank_nil
    : ∀ c ∈ ([] : List Char), isBlank c = true :=
  fun _ hc => nomatch hc

theorem blank_space
    : ∀ c ∈ [' '], isBlank c = true :=
  List.all_eq_true.mp rfl

theorem blank_indent
    : ∀ c ∈ indent.toList, isBlank c = true :=
  List.all_eq_true.mp rfl

/-- White space around a line is left out of its token. -/
theorem finished_padded {before after : List Char} {text : String}
    (hb : ∀ c ∈ before, isBlank c = true) (ha : ∀ c ∈ after, isBlank c = true)
    (ht : IsTrimmed text.toList) (hne : text ≠ "") (comment : Option String)
    : finished (before ++ text.toList ++ after).reverse comment = [.text text comment 0] := by
  have htrim := ht.trim_padded hb ha
  obtain ⟨c, cs, hc⟩ := List.exists_cons_of_ne_nil (toList_ne_nil hne)
  rw [hc] at htrim
  simp only [finished, Pending.finish, List.reverse_reverse]
  rw [hc, htrim]
  simp only [← hc, String.ofList_toList]

theorem reads_blank
    : Reads ['\n'] [] :=
  fun _ => scanned_newline

theorem reads_closing
    : Reads ['\x7d', '\n'] [.closing 0] := by
  intro cs
  rw [List.cons_append, scanned_closing, List.singleton_append, scanned_newline]
  rfl

/-- A line that stays together is one token. -/
theorem reads_line {text : String} (he : EndsLine text.toList) (ht : IsTrimmed text.toList)
    (hne : text ≠ "")
    : Reads (text.toList ++ ['\n']) [.text text none 0] := by
  intro cs
  have hf := finished_padded blank_nil blank_nil ht hne none
  rw [List.nil_append, List.append_nil] at hf
  rw [List.append_assoc, List.singleton_append, he.scanned_append, List.append_nil, hf]

/-- An indented line that stays together is one token. -/
theorem reads_indented {text : String} (he : EndsLine text.toList) (ht : IsTrimmed text.toList)
    (hne : text ≠ "")
    : Reads ((indent ++ text).toList ++ ['\n']) [.text text none 0] := by
  intro cs
  have hf := finished_padded blank_indent blank_nil ht hne none
  rw [List.append_nil] at hf
  have hline : EndsLine (indent.toList ++ text.toList) := Leads.append_endsLine (leads_plain rfl) he
  rw [String.toList_append, List.append_assoc, List.singleton_append, hline.scanned_append,
    List.append_nil, hf]

/-- A heading and its brace are two tokens. -/
theorem reads_heading {text : String} (hs : Shut endsText text.toList) (ht : IsTrimmed text.toList)
    (hne : text ≠ "")
    : Reads ((text ++ " \x7b").toList ++ ['\n']) [.text text none 0, .opening 0] := by
  intro cs
  have hf := finished_padded blank_nil blank_space ht hne none
  rw [List.nil_append] at hf
  have hcs : (text ++ " \x7b").toList ++ ['\n'] ++ cs
      = (text.toList ++ [' ']) ++ '\x7b' :: '\n' :: cs := by
    simp
  have hspace : Shut endsText (text.toList ++ [' ']) :=
    (hs.leads (apart_cons (by decide))).append_shut rfl
  rw [hcs, (hspace.leads (apart_cons (by decide))).scanned_append, scanned_opening,
    List.append_nil, hf, scanned_newline]
  rfl

/-- An indented line before a comment is one token that holds the comment. -/
theorem reads_commented {text comment : String} (hs : Shut endsText text.toList)
    (ht : IsTrimmed text.toList) (hne : text ≠ "") (hc : IsTrimmed comment.toList)
    (hcne : comment ≠ "") (hcl : '\n' ∉ comment.toList)
    : Reads ((indent ++ (text ++ " // " ++ comment)).toList ++ ['\n'])
        [.text text (some comment) 0] := by
  intro cs
  have hf := finished_padded blank_indent blank_space ht hne (some comment)
  have htext : (indent ++ (text ++ " // " ++ comment)).toList ++ ['\n'] ++ cs
      = (indent.toList ++ text.toList ++ [' '])
        ++ '/' :: '/' :: ((' ' :: comment.toList) ++ '\n' :: cs) := by
    simp
  have hline : ∀ c ∈ ' ' :: comment.toList, decide (c ≠ '\n') = true := by
    intro c hm
    rw [decide_eq_true_eq]
    intro he
    subst he
    exact hcl (by simpa using hm)
  have htake : ((' ' :: comment.toList) ++ '\n' :: cs).takeWhile (· ≠ '\n')
      = ' ' :: comment.toList := by
    rw [List.takeWhile_append_of_pos hline]
    simp
  have hdrop : ((' ' :: comment.toList) ++ '\n' :: cs).dropWhile (· ≠ '\n') = '\n' :: cs := by
    rw [List.dropWhile_append_of_pos hline]
    simp
  have hcomment : commentText ('/' :: '/' :: ' ' :: comment.toList) = some comment := by
    have htrim := hc.trim_padded blank_space blank_nil
    obtain ⟨d, ds, hd⟩ := List.exists_cons_of_ne_nil (toList_ne_nil hcne)
    rw [List.append_nil, List.singleton_append, hd] at htrim
    rw [commentText, List.drop_succ_cons, List.drop_succ_cons, List.drop_zero, hd, htrim]
    simp only [← hd, String.ofList_toList]
  have hbefore (after : List Char)
      : Leads endsText after .plain (indent.toList ++ text.toList ++ [' ']) .plain :=
    (Leads.append (leads_plain rfl) (hs.leads (apart_cons (by decide)))).append (leads_plain rfl)
  rw [htext, (hbefore _).scanned_append, scanned_comment, htake, hdrop, hcomment, scanned_newline,
    List.append_nil, hf]

end SchemaMarkup.Markup
