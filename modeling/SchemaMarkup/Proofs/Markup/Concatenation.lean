import SchemaMarkup.Proofs.Markup.OpenStrings
import SchemaMarkup.Proofs.Markup.Thinning

/-! Texts read one after the other. Where the braces of tokens pair up, no block goes on beyond
them, and what follows them is read by itself unless it goes on with a block, which the last line
would head. So a text followed by another one declares what both declare.
-/

namespace SchemaMarkup.Markup

open Token

section

variable {ts us : List Token}

/-- Braces that pair up leave it to what follows whether all of them do. -/
theorem bracesPair_append {d : Nat} (h : bracesPair d ts = true)
    : bracesPair d (ts ++ us) = bracesPair 0 us := by
  fun_induction bracesPair d ts with
  | case1 d => rw [List.nil_append, of_decide_eq_true h]
  | case2 d n ts ih => exact ih h
  | case3 n ts => cases h
  | case4 n ts d ih => exact ih h
  | case5 d s comment n ts ih => exact ih h

theorem startsBlock_append (h : ts ≠ [])
    : startsBlock (ts ++ us) = startsBlock ts := by
  cases ts with
  | nil => exact absurd rfl h
  | cons t ts => cases t <;> rfl

/-- A block that is closed has the lines that it has by itself, whatever follows, and leaves braces
that pair up. By induction on the tokens.
-/
theorem blockLines_append {d : Nat} (h : bracesPair (d + 1) ts = true) (us : List Token)
    : blockLines d (ts ++ us) = ((blockLines d ts).1, (blockLines d ts).2 ++ us)
      ∧ bracesPair 0 (blockLines d ts).2 = true := by
  fun_induction blockLines d ts with
  | case1 d => cases h
  | case2 n ts => exact ⟨rfl, h⟩
  | case3 n ts d ih => exact ih h
  | case4 d n ts ih => exact ih h
  | _ d s comment n ts lines rest hl hs ih =>
      have hne : ts ≠ [] := by
        rintro rfl
        cases h
      obtain ⟨lines_eq, pair⟩ := ih h
      rw [hl] at lines_eq pair
      refine ⟨?_, pair⟩
      rw [List.cons_append, blockLines_text, startsBlock_append hne, lines_eq]
      simp only [hs, reduceIte, Bool.false_eq_true]

/-- Tokens whose braces pair up make their statements, and what follows them makes its own unless
it goes on with a block. By induction on the tokens.
-/
theorem ofTokens_append (h : bracesPair 0 ts = true) (single : startsBlock us = false)
    : Statement.ofTokens (ts ++ us) = Statement.ofTokens ts ++ Statement.ofTokens us := by
  fun_induction Statement.ofTokens ts with
  | case1 => rfl
  | case2 n ts ih => cases h
  | case3 n ts ih =>
      obtain ⟨lines_eq, pair⟩ := blockLines_append (h : bracesPair 1 ts = true) us
      rw [skipBlock_eq] at ih ⊢
      rw [List.cons_append, Statement.ofTokens, skipBlock_eq, lines_eq, ih pair]
  | case4 s comment n r ts hr ih =>
      rw [List.cons_append, ofTokens_ref hr, ih h, List.cons_append]
  | case5 s comment n m ts hr ih =>
      obtain ⟨lines_eq, pair⟩ := blockLines_append (h : bracesPair 1 ts = true) us
      rw [readBlock_eq] at ih ⊢
      rw [List.cons_append, List.cons_append, ofTokens_block hr, lines_eq, ih pair,
        List.append_assoc]
  | case6 s comment n ts hne hr ih =>
      have alone : startsBlock (ts ++ us) = false := by
        cases ts with
        | nil => exact single
        | cons t ts =>
            rw [startsBlock_append (List.cons_ne_nil t ts)]
            exact startsBlock_eq_false hne
      rw [List.cons_append, ofTokens_text hr alone, ih h]

theorem schemaOf_append (xs ys : List Statement)
    : schemaOf (xs ++ ys) = {
        tables := (schemaOf xs).tables ++ (schemaOf ys).tables
        refs := (schemaOf xs).refs ++ (schemaOf ys).refs
        groups := (schemaOf xs).groups ++ (schemaOf ys).groups } := by
  simp [schemaOf]

end

/-- A text followed by another one declares what the first declares and then what the second does,
if no string of the first goes on into the second and this does not begin with a block.
-/
theorem ofText_append_newline {a b : String} {s s' : Schema} (ha : Schema.ofText a = .ok s)
    (hb : Schema.ofText b = .ok s') (outside : EndsOutside (a ++ "\n").toList)
    (single : startsBlock (scan b) = false)
    : Schema.ofText (a ++ "\n" ++ b) = .ok {
        tables := s.tables ++ s'.tables
        refs := s.refs ++ s'.refs
        groups := s.groups ++ s'.groups } := by
  have tokens : (scan (a ++ "\n" ++ b)).map unplaced
      = (scan a).map unplaced ++ (scan b).map unplaced := by
    rw [String.toList_append] at outside
    simp only [map_unplaced_scan, String.toList_append, List.append_assoc]
    exact outside.scanned_append_newline b.toList
  obtain ⟨⟨tableA, pairA⟩, rfl⟩ := (ofText_eq_ok_iff rfl).mp ha
  obtain ⟨⟨_, pairB⟩, rfl⟩ := (ofText_eq_ok_iff rfl).mp hb
  refine (ofText_eq_ok_iff tokens).mpr ⟨⟨?_, ?_⟩, ?_⟩
  · rw [List.any_append, tableA, Bool.true_or]
  · rw [bracesPair_append pairA, pairB]
  · rw [ofTokens_append pairA (by rw [startsBlock_unplaced, single]), schemaOf_append]

/-- A text that ends with a comment in which a quote stands. -/
def shelfText : String :=
  "Table books \x7b
  id int [note: \"a // \x7b \\\" b\"]
  shelf shelves
\x7d
Ref: books.shelf > shelves.id // the shelf's"

/-- A text that begins with a reference and declares a group as well. -/
def loanText : String :=
  "Ref: loans.book > books.id
Table loans \x7b
  book books
\x7d
TableGroup lending \x7b
  loans // by year
\x7d"

/-- What the first of such texts declares. -/
def shelfSchema : Schema where
  tables := [
    { name := "books"
      fields := [
        { name := "id", type := "int", note := some "a // \x7b \" b" },
        { name := "shelf", type := "shelves" }] }]
  refs := [⟨"books", "shelf", .manyToOne, "shelves", "id"⟩]

/-- What the second of such texts declares. -/
def loanSchema : Schema where
  tables := [{ name := "loans", fields := [{ name := "book", type := "books" }] }]
  refs := [⟨"loans", "book", .manyToOne, "books", "id"⟩]
  groups := [{ name := "lending", members := [⟨"loans", some "by year"⟩] }]

/-- What both of them declare together. -/
theorem ofText_append_newline_library
    : Schema.ofText shelfText = .ok shelfSchema ∧ Schema.ofText loanText = .ok loanSchema
      ∧ Schema.ofText (shelfText ++ "\n" ++ loanText) = .ok {
          tables := shelfSchema.tables ++ loanSchema.tables
          refs := shelfSchema.refs ++ loanSchema.refs
          groups := shelfSchema.groups ++ loanSchema.groups } := by
  have shelf : Schema.ofText shelfText = .ok shelfSchema := by decide +kernel
  have loan : Schema.ofText loanText = .ok loanSchema := by decide +kernel
  exact ⟨shelf, loan, ofText_append_newline shelf loan (by decide +kernel) (by decide +kernel)⟩

end SchemaMarkup.Markup
