import SchemaMarkup.Markup.Document
import SchemaMarkup.Proofs.Markup.Lexemes

/-! Statements made by tokens. The numbers of lines do not matter for them, a block is read up to
the brace that closes it, and a text that makes a table statement has a table heading.
-/

namespace SchemaMarkup.Markup

open Token

/-- Whether braces pair up does not depend on their lines, by induction. -/
theorem bracesPair_unplaced (depth : Nat) (ts : List Token)
    : bracesPair depth (ts.map unplaced) = bracesPair depth ts := by
  fun_induction bracesPair depth ts with
  | case1 depth => rfl
  | case2 depth n ts ih => exact ih
  | case3 n ts => rfl
  | case4 n ts d ih => exact ih
  | case5 depth s comment n ts ih => exact ih

theorem startsBlock_unplaced (ts : List Token)
    : startsBlock (ts.map unplaced) = startsBlock ts := by
  cases ts with
  | nil => rfl
  | cons t ts => cases t <;> rfl

/-- Tokens that do not go on with an opening brace go on with no block. -/
theorem startsBlock_eq_false {ts : List Token} (h : ∀ n us, ts = .opening n :: us → False)
    : startsBlock ts = false := by
  unfold startsBlock
  split
  · exact absurd rfl (h _ _)
  · rfl

-----------------------------------------------------------------------------------------
-- Blocks read with a count of the inner blocks
-----------------------------------------------------------------------------------------

/-- The lines of a block whose opening brace has been read, and what follows its closing brace, as
they are found by a count of the inner blocks that are open. Lines that stand in an inner block or
head one are passed over.
-/
def blockLines (depth : Nat) : List Token → List BlockLine × List Token
  | [] => ([], [])
  | .closing _ :: ts =>
    match depth with
    | 0 => ([], ts)
    | d + 1 => blockLines d ts
  | .opening _ :: ts => blockLines (depth + 1) ts
  | .text s comment _ :: ts =>
    let (lines, rest) := blockLines depth ts
    if depth = 0 && !startsBlock ts then (⟨s, comment⟩ :: lines, rest) else (lines, rest)

/-- The line before other tokens is a line of the block unless it is nested or heads a block. -/
theorem blockLines_text (depth : Nat) (s : String) (comment : Option String) (n : Nat)
    (ts : List Token)
    : blockLines depth (.text s comment n :: ts)
      = (if depth = 0 && !startsBlock ts then ⟨s, comment⟩ :: (blockLines depth ts).1
          else (blockLines depth ts).1,
        (blockLines depth ts).2) := by
  rw [blockLines]
  rcases blockLines depth ts with ⟨lines, rest⟩
  dsimp only
  split <;> rfl

/-- What follows a block ends the tokens it stands in, by induction. -/
theorem blockLines_suffix (depth : Nat) (ts : List Token)
    : (blockLines depth ts).2 <:+ ts := by
  fun_induction blockLines depth ts with
  | case1 depth => exact List.suffix_rfl
  | case2 n ts => exact List.suffix_cons _ ts
  | case3 n ts d ih => exact ih.trans (List.suffix_cons _ ts)
  | case4 depth n ts ih => exact ih.trans (List.suffix_cons _ ts)
  | case5 depth s comment n ts lines rest hl hs ih =>
      rw [hl] at ih
      exact ih.trans (List.suffix_cons _ ts)
  | case6 depth s comment n ts lines rest hl hs ih =>
      rw [hl] at ih
      exact ih.trans (List.suffix_cons _ ts)

/-- With one more inner block open, that block is passed over first. By induction on the number of
tokens.
-/
theorem blockLines_succ (depth : Nat) (ts : List Token)
    : blockLines (depth + 1) ts = blockLines depth (blockLines 0 ts).2 := by
  induction hn : ts.length using Nat.strong_induction_on generalizing depth ts with
  | _ n ih =>
      subst hn
      cases ts with
      | nil => rfl
      | cons t ts =>
          have shorter (depth : Nat) := ih ts.length (Nat.lt_succ_self _) depth ts rfl
          cases t with
          | closing n => rfl
          | text s comment n =>
              rw [blockLines_text, blockLines_text, ← shorter]
              rfl
          | opening n =>
              -- Both inner blocks are passed over, the inner one of the two first.
              have bound := (blockLines_suffix 0 ts).length_le
              have outer := ih _ (Nat.lt_succ_of_le bound) depth _ rfl
              change blockLines (depth + 1 + 1) ts = blockLines depth (blockLines 1 ts).2
              rw [shorter, shorter, outer]

/-- The lines of a block and what follows it are those that are found by counting. By induction on
the number of tokens, with the cases of the reader.
-/
theorem readBlock_eq (ts : List Token)
    : (readBlock ts).1 = blockLines 0 ts := by
  have skip (ts : List Token) : (skipBlock ts).1 = (readBlock ts).1.2 := by rw [skipBlock]
  suffices all : ∀ n, ∀ ts : List Token, ts.length = n → (readBlock ts).1 = blockLines 0 ts from
    all _ ts rfl
  intro n
  induction n using Nat.strong_induction_on with
  | _ n ih =>
      rintro ts rfl
      -- An inner block is skipped, and then the rest of the block is read.
      have inner {ts' : List Token} (shorter : ts'.length < ts.length)
          : (readBlock (skipBlock ts').1).1 = blockLines 1 ts' := by
        have bound := (blockLines_suffix 0 ts').length_le
        rw [skip, ih _ shorter ts' rfl, ih _ (bound.trans_lt shorter) _ rfl, blockLines_succ]
      unfold readBlock
      split
      · rfl
      · rfl
      · exact inner (Nat.lt_succ_self _)
      · rename_i s comment n m ts
        rw [blockLines_text]
        exact inner (by simp only [List.length_cons]; omega)
      · rename_i s comment n ts alone
        rw [blockLines_text, startsBlock_eq_false alone, ← ih _ (Nat.lt_succ_self _) ts rfl]
        rfl

theorem skipBlock_eq (ts : List Token)
    : (skipBlock ts).1 = (blockLines 0 ts).2 := by
  rw [skipBlock, ← readBlock_eq]

/-- The lines of a block do not depend on their numbers, by induction. -/
theorem blockLines_unplaced (depth : Nat) (ts : List Token)
    : blockLines depth (ts.map unplaced)
      = ((blockLines depth ts).1, (blockLines depth ts).2.map unplaced) := by
  fun_induction blockLines depth ts with
  | case1 depth => rfl
  | case2 n ts => rfl
  | case3 n ts d ih => exact ih
  | case4 depth n ts ih => exact ih
  | case5 depth s comment n ts lines rest hl hs ih =>
      rw [hl] at ih
      rw [List.map_cons, unplaced, blockLines, ih, startsBlock_unplaced]
      exact if_pos hs
  | case6 depth s comment n ts lines rest hl hs ih =>
      rw [hl] at ih
      rw [List.map_cons, unplaced, blockLines, ih, startsBlock_unplaced]
      exact if_neg hs

theorem ofTokens_ref {text : String} {r : Ref} (h : Ref.ofLine? text = some r)
    (comment : Option String) (n : Nat) (ts : List Token)
    : Statement.ofTokens (.text text comment n :: ts) = .ref r :: Statement.ofTokens ts := by
  rw [Statement.ofTokens]
  exact h

/-- A line before a brace heads the block that the brace opens. -/
theorem ofTokens_block {text : String} (h : Ref.ofLine? text = none)
    (comment : Option String) (n m : Nat) (ts : List Token)
    : Statement.ofTokens (.text text comment n :: .opening m :: ts)
      = (Statement.ofBlock? text (blockLines 0 ts).1).toList
        ++ Statement.ofTokens (blockLines 0 ts).2 := by
  simp only [Statement.ofTokens, h, readBlock_eq]

/-- Any other line is passed over. -/
theorem ofTokens_text {text : String} (h : Ref.ofLine? text = none) {ts : List Token}
    (hs : startsBlock ts = false) (comment : Option String) (n : Nat)
    : Statement.ofTokens (.text text comment n :: ts) = Statement.ofTokens ts := by
  have hne : ∀ m us, ts = .opening m :: us → False := by
    intro m us he
    subst he
    cases hs
  simp only [Statement.ofTokens, h]

/-- The statements that tokens make do not depend on their lines, by induction. -/
theorem ofTokens_unplaced (ts : List Token)
    : Statement.ofTokens (ts.map unplaced) = Statement.ofTokens ts := by
  fun_induction Statement.ofTokens ts with
  | case1 => exact Statement.ofTokens_nil
  | case2 n ts ih => rwa [List.map_cons, unplaced, Statement.ofTokens]
  | case3 n ts ih =>
      rw [skipBlock_eq] at ih ⊢
      rwa [List.map_cons, unplaced, Statement.ofTokens, skipBlock_eq, blockLines_unplaced]
  | case4 s comment n r ts hr ih => rw [List.map_cons, unplaced, ofTokens_ref hr, ih]
  | case5 s comment n m ts hr ih =>
      rw [readBlock_eq] at ih ⊢
      rw [List.map_cons, List.map_cons, unplaced, unplaced, ofTokens_block hr,
        blockLines_unplaced, ih]
  | case6 s comment n ts hne hr ih =>
      have hs : startsBlock (ts.map unplaced) = false := by
        rw [startsBlock_unplaced, startsBlock_eq_false hne]
      rw [List.map_cons, unplaced, ofTokens_text hr hs, ih]

/-- Only a table heading heads the block of a table. -/
theorem isTableHeading_of_ofBlock? {heading name : String} {body lines : List BlockLine}
    (h : Statement.ofBlock? heading lines = some (.table name body))
    : (tableHeading? heading).isSome = true := by
  rw [Statement.ofBlock?] at h
  split at h
  · rename_i hn
    rw [hn]
    rfl
  · obtain ⟨g, _, hg⟩ := Option.map_eq_some_iff.mp h
    cases hg

/-- Tokens that make a table statement have a table heading among them, by induction. -/
theorem any_isTableHeading {name : String} {body : List BlockLine} {ts : List Token}
    (h : .table name body ∈ Statement.ofTokens ts)
    : ts.any Token.isTableHeading = true := by
  have later {us vs : List Token} (hs : us <:+ vs) (hu : us.any Token.isTableHeading = true)
      : vs.any Token.isTableHeading = true := by
    obtain ⟨t, ht, hh⟩ := List.any_eq_true.mp hu
    exact List.any_eq_true.mpr ⟨t, hs.subset ht, hh⟩
  fun_induction Statement.ofTokens ts with
  | case1 => cases h
  | case2 n ts ih => exact later (List.suffix_cons _ ts) (ih h)
  | case3 n ts ih =>
      rw [skipBlock_eq] at ih h
      exact later ((blockLines_suffix 0 ts).trans (List.suffix_cons _ ts)) (ih h)
  | case4 s comment n r ts hr ih =>
      rcases List.mem_cons.mp h with he | hm
      · cases he
      · exact later (List.suffix_cons _ ts) (ih hm)
  | case5 s comment n m ts hr ih =>
      rw [readBlock_eq] at ih h
      rcases List.mem_append.mp h with hm | hm
      · have hhead := isTableHeading_of_ofBlock? (Option.mem_toList.mp hm)
        exact List.any_eq_true.mpr ⟨.text s comment n, List.mem_cons_self, hhead⟩
      · have hs := (blockLines_suffix 0 ts).trans (List.suffix_cons (.opening m) ts)
        exact later (hs.trans (List.suffix_cons _ _)) (ih hm)
  | case6 s comment n ts hne hr ih => exact later (List.suffix_cons _ ts) (ih h)

/-- Whether a token heads a table does not depend on its line. -/
theorem isTableHeading_unplaced (t : Token)
    : t.unplaced.isTableHeading = t.isTableHeading := by
  cases t <;> rfl

/-- Whether a text is read, and as what, can be seen from its tokens without their numbers. -/
theorem ofText_eq_ok_iff {text : String} {s : Schema} {ts : List Token}
    (h : (scan text).map unplaced = ts)
    : Schema.ofText text = .ok s
      ↔ (ts.any Token.isTableHeading = true ∧ bracesPair 0 ts = true)
        ∧ schemaOf (Statement.ofTokens ts) = s := by
  have heading : ts.any Token.isTableHeading = (scan text).any Token.isTableHeading := by
    rw [← h, List.any_map]
    exact congrArg (List.any _) (funext isTableHeading_unplaced)
  rw [heading, ← h, bracesPair_unplaced, ofTokens_unplaced, Schema.ofText, fault?]
  cases (scan text).any Token.isTableHeading <;> cases bracesPair 0 (scan text) <;> simp

/-- A text is read if it makes a table statement and its braces pair up. -/
theorem ofText_eq_ok {text name : String} {body : List BlockLine} {ts : List Token}
    (h : (scan text).map unplaced = ts) (hb : bracesPair 0 ts = true)
    (ht : .table name body ∈ Statement.ofTokens ts)
    : Schema.ofText text = .ok (schemaOf (Statement.ofTokens ts)) :=
  (ofText_eq_ok_iff h).mpr ⟨⟨any_isTableHeading ht, hb⟩, rfl⟩

/-- The token of a line inside a block. -/
def BlockLine.token (l : BlockLine) : Token :=
  .text l.text l.comment 0

/-- The tokens of a block without inner ones. -/
def blockTokens (heading : String) (body : List BlockLine) : List Token :=
  .text heading none 0 :: .opening 0 :: (body.map BlockLine.token ++ [.closing 0])

/-- The lines of a block are read up to its closing brace, by induction. -/
theorem blockLines_body (body : List BlockLine) (ts : List Token)
    : blockLines 0 (body.map BlockLine.token ++ .closing 0 :: ts) = (body, ts) := by
  induction body with
  | nil => rfl
  | cons l body ih =>
      have hs : startsBlock (body.map BlockLine.token ++ .closing 0 :: ts) = false := by
        cases body <;> rfl
      rw [List.map_cons, List.cons_append, BlockLine.token, blockLines, ih, hs]
      rfl

/-- A block makes the statement of its heading and its lines. -/
theorem ofTokens_blockTokens {heading : String} (h : Ref.ofLine? heading = none)
    (body : List BlockLine) (ts : List Token)
    : Statement.ofTokens (blockTokens heading body ++ ts)
      = (Statement.ofBlock? heading body).toList ++ Statement.ofTokens ts := by
  have hts : blockTokens heading body ++ ts
      = .text heading none 0 :: .opening 0
        :: (body.map BlockLine.token ++ .closing 0 :: ts) := by
    simp [blockTokens]
  rw [hts, ofTokens_block h, blockLines_body]

theorem bracesPair_body (depth : Nat) (body : List BlockLine) (ts : List Token)
    : bracesPair depth (body.map BlockLine.token ++ ts) = bracesPair depth ts := by
  induction body with
  | nil => rfl
  | cons l body ih => exact ih

/-- The braces of a block pair up. -/
theorem bracesPair_blockTokens (depth : Nat) (heading : String) (body : List BlockLine)
    (ts : List Token)
    : bracesPair depth (blockTokens heading body ++ ts) = bracesPair depth ts := by
  rw [blockTokens, List.cons_append, List.cons_append, List.append_assoc, bracesPair, bracesPair,
    bracesPair_body]
  rfl

end SchemaMarkup.Markup
