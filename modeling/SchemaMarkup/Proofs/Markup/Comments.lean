import SchemaMarkup.Proofs.Markup.OpenStrings
import SchemaMarkup.Proofs.Markup.Thinning

/-! Comments and what a schema means. Only the comment of a line in the block of a group is ever
read. Tokens from which all other comments have been taken make the same statements, and so a
comment may stand at the end of every other line, whatever it says.
-/

namespace SchemaMarkup.Markup

open Token

/-- Where tokens break off: at the outermost level, with the line before, or in the block of such a
line, with the number of inner blocks that are open.
-/
inductive Level where
  | outermost (line? : Option String)
  | inBlock (heading? : Option String) (inner : Nat)

namespace Level

/-- The level after one more token. -/
def next : Level → Token → Level
  | outermost _, .text s _ _ => outermost (some s)
  | outermost line?, .opening _ => inBlock line? 0
  | outermost _, .closing _ => outermost none
  | inBlock heading? inner, .text _ _ _ => inBlock heading? inner
  | inBlock heading? inner, .opening _ => inBlock heading? (inner + 1)
  | inBlock _ 0, .closing _ => outermost none
  | inBlock heading? (inner + 1), .closing _ => inBlock heading? inner

/-- The level after some tokens. -/
def after (ts : List Token) : Level :=
  ts.foldl next (outermost none)

/-- Whether a level is inside of the block of a group. -/
def isGrouped : Level → Bool
  | outermost _ => false
  | inBlock heading? _ =>
    heading?.any fun s => (tableHeading? s).isNone && (groupHeading? s).isSome

end Level

/-- Whether some tokens break off inside of the block of a group. -/
def InGroup (ts : List Token) : Prop :=
  (Level.after ts).isGrouped = true

instance (ts : List Token) : Decidable (InGroup ts) :=
  inferInstanceAs (Decidable (_ = _))

/-- Tokens from a level on, without comments outside of groups. -/
def withoutComments (level : Level) : List Token → List Token
  | [] => []
  | t :: ts =>
    (if level.isGrouped then t else t.recomment none) :: withoutComments (level.next t) ts

/-- A line without its comment. -/
def BlockLine.bare (l : BlockLine) : BlockLine :=
  { l with comment := none }

/-- A line of a block with its comment if the block is one of a group. -/
def Level.read (level : Level) (l : BlockLine) : BlockLine :=
  if level.isGrouped then l else l.bare

/-- A statement without the comments that it does not use. -/
def Statement.bare : Statement → Statement
  | ref r => ref r
  | table name body => table name (body.map BlockLine.bare)
  | group heading body => group heading body

section

variable {ts us : List Token} {level : Level}

-----------------------------------------------------------------------------------------
-- Levels
-----------------------------------------------------------------------------------------

theorem Level.next_recomment (level : Level) (k : Option String) (t : Token)
    : level.next (t.recomment k) = level.next t := by
  rcases level with _ | ⟨heading?, _ | inner⟩ <;> cases t <;> rfl

theorem Level.next_unplaced (level : Level) (t : Token)
    : level.next t.unplaced = level.next t := by
  rcases level with _ | ⟨heading?, _ | inner⟩ <;> cases t <;> rfl

/-- A finished line makes a token of text or none. -/
theorem finished_eq (r : List Char) (k : Option String)
    : finished r k = [] ∨ ∃ s, finished r k = [.text s k 0] := by
  rw [finished, Pending.finish]
  split
  · exact .inl rfl
  · exact .inr ⟨_, rfl⟩

/-- A finished line leads neither into a group nor out of one. -/
theorem Level.isGrouped_finished (level : Level) (r : List Char) (k : Option String)
    : ((finished r k).foldl next level).isGrouped = level.isGrouped := by
  rcases finished_eq r k with he | ⟨s, he⟩
  · rw [he]
    rfl
  · rw [he]
    cases level <;> rfl

/-- The level does not depend on the numbers of lines. -/
theorem Level.after_unplaced (ts : List Token)
    : after (ts.map unplaced) = after ts := by
  rw [after, List.foldl_map]
  exact congrArg (fun f => ts.foldl f _) (funext fun level => funext (next_unplaced level))

/-- Comments are taken from tokens one after the other, by induction. -/
theorem withoutComments_append (level : Level) (ts us : List Token)
    : withoutComments level (ts ++ us)
      = withoutComments level ts ++ withoutComments (ts.foldl Level.next level) us := by
  induction ts generalizing level with
  | nil => rfl
  | cons t ts ih => rw [List.cons_append, withoutComments, withoutComments, ih]; rfl

/-- Outside of groups the comment of a finished line does not matter. -/
theorem withoutComments_finished (ungrouped : level.isGrouped = false) (r : List Char)
    (k k' : Option String) (us : List Token)
    : withoutComments level ((finished r k).map (recomment k') ++ us)
      = withoutComments level (finished r k ++ us) := by
  rcases finished_eq r k with he | ⟨s, he⟩
  · rw [he]
    rfl
  · rw [he, List.map_singleton, List.singleton_append, List.singleton_append, withoutComments,
      withoutComments, Level.next_recomment, ungrouped]
    rfl

-----------------------------------------------------------------------------------------
-- Statements without comments
-----------------------------------------------------------------------------------------

theorem withoutComments_text (s : String) (k : Option String) (n : Nat)
    : withoutComments level (.text s k n :: ts)
      = .text s (if level.isGrouped then k else none) n
        :: withoutComments (level.next (.text s k n)) ts := by
  rw [withoutComments]
  split <;> rfl

theorem withoutComments_opening (n : Nat)
    : withoutComments level (.opening n :: ts)
      = .opening n :: withoutComments (level.next (.opening n)) ts := by
  rw [withoutComments]
  split <;> rfl

theorem withoutComments_closing (n : Nat)
    : withoutComments level (.closing n :: ts)
      = .closing n :: withoutComments (level.next (.closing n)) ts := by
  rw [withoutComments]
  split <;> rfl

theorem startsBlock_withoutComments
    : startsBlock (withoutComments level ts) = startsBlock ts := by
  cases ts with
  | nil => rfl
  | cons t ts =>
      cases t with
      | text s k n => rw [withoutComments_text]; rfl
      | opening n => rw [withoutComments_opening]; rfl
      | closing n => rw [withoutComments_closing]; rfl

/-- The lines of a block lose their comments unless it is the block of a group, and what follows it
goes on at the outermost level. By induction on the tokens.
-/
theorem blockLines_withoutComments (heading? : Option String) (d : Nat) (ts : List Token)
    : blockLines d (withoutComments (.inBlock heading? d) ts)
      = ((blockLines d ts).1.map (Level.inBlock heading? d).read,
        withoutComments (.outermost none) (blockLines d ts).2) := by
  induction ts generalizing d with
  | nil => rfl
  | cons t ts ih =>
      cases t with
      | text s k n =>
          have hnext : (Level.inBlock heading? d).next (.text s k n) = .inBlock heading? d := rfl
          have hread : (Level.inBlock heading? d).read ⟨s, k⟩
              = ⟨s, if (Level.inBlock heading? d).isGrouped then k else none⟩ := by
            rw [Level.read]
            split <;> rfl
          rw [withoutComments_text, hnext, blockLines_text, blockLines_text, ih,
            startsBlock_withoutComments, ← hread]
          split <;> rfl
      | opening n =>
          rw [withoutComments_opening]
          exact ih (d + 1)
      | closing n =>
          rw [withoutComments_closing]
          cases d with
          | zero => rfl
          | succ d => exact ih d

/-- A block is read as a group exactly if its level is inside of a group. -/
theorem ofBlock?_read (s : String) (lines : List BlockLine)
    : Statement.ofBlock? s (lines.map (Level.inBlock (some s) 0).read)
      = (Statement.ofBlock? s lines).map Statement.bare := by
  have read : (Level.inBlock (some s) 0).read
      = fun l => if (tableHeading? s).isNone && (groupHeading? s).isSome then l else l.bare :=
    rfl
  rw [read, Statement.ofBlock?, Statement.ofBlock?]
  cases tableHeading? s with
  | some name => rfl
  | none =>
      cases groupHeading? s with
      | none => rfl
      | some heading => simp [Statement.bare]

/-- The statements that are made without comments are the bare ones, by induction on the tokens. -/
theorem ofTokens_withoutComments (line? : Option String) (ts : List Token)
    : Statement.ofTokens (withoutComments (.outermost line?) ts)
      = (Statement.ofTokens ts).map Statement.bare := by
  fun_induction Statement.ofTokens ts generalizing line? with
  | case1 => exact Statement.ofTokens_nil
  | case2 n ts ih =>
      rw [withoutComments_closing, Statement.ofTokens]
      exact ih none
  | case3 n ts ih =>
      have hnext : (Level.outermost line?).next (.opening n) = .inBlock line? 0 := rfl
      rw [skipBlock_eq] at ih ⊢
      rw [withoutComments_opening, Statement.ofTokens, skipBlock_eq, hnext,
        blockLines_withoutComments]
      exact ih none
  | case4 s k n r ts hr ih =>
      rw [withoutComments_text, ofTokens_ref hr, List.map_cons]
      exact congrArg (_ :: ·) (ih (some s))
  | case5 s k n m ts hr ih =>
      have hnext : ((Level.outermost line?).next (.text s k n)).next (.opening m)
          = .inBlock (some s) 0 :=
        rfl
      rw [readBlock_eq] at ih ⊢
      rw [withoutComments_text, withoutComments_opening, ofTokens_block hr, hnext,
        blockLines_withoutComments, ofBlock?_read, ih, List.map_append, ← Option.toList_map]
  | case6 s k n ts hne hr ih =>
      have hnext : (Level.outermost line?).next (.text s k n) = .outermost (some s) := rfl
      have single : startsBlock (withoutComments (.outermost (some s)) ts) = false := by
        rw [startsBlock_withoutComments, startsBlock_eq_false hne]
      rw [withoutComments_text, hnext, ofTokens_text hr single, ih]

/-- Statements contribute to a schema what they do without the comments that they do not use. -/
theorem schemaOf_bare (statements : List Statement)
    : schemaOf (statements.map Statement.bare) = schemaOf statements := by
  have ref : BlockLine.ref? ∘ BlockLine.bare = BlockLine.ref? := rfl
  have field : BlockLine.field? ∘ BlockLine.bare = BlockLine.field? := rfl
  have note : BlockLine.note? ∘ BlockLine.bare = BlockLine.note? := rfl
  have table (statement : Statement) : statement.bare.table? = statement.table? := by
    cases statement with
    | table name body =>
        simp only [Statement.bare, Statement.table?, List.filterMap_map, field,
          List.findSome?_map, note]
    | _ => rfl
  have refs (statement : Statement) : statement.bare.refs = statement.refs := by
    cases statement with
    | table name body => simp only [Statement.bare, Statement.refs, List.filterMap_map, ref]
    | _ => rfl
  have group (statement : Statement) : statement.bare.group? = statement.group? := by
    cases statement <;> rfl
  simp [schemaOf, List.filterMap_map, List.flatMap_map, table, refs, group]

-----------------------------------------------------------------------------------------
-- Faults and comments
-----------------------------------------------------------------------------------------

/-- What holds of tokens whatever their comments say holds of them without comments, by induction.
-/
theorem map_withoutComments {α : Type} {f : Token → α} (h : ∀ t, f (t.recomment none) = f t)
    (level : Level) (ts : List Token)
    : (withoutComments level ts).map f = ts.map f := by
  induction ts generalizing level with
  | nil => rfl
  | cons t ts ih =>
      rw [withoutComments, List.map_cons, List.map_cons, ih]
      split
      · rfl
      · rw [h]

theorem bracesPair_withoutComments (level : Level) (d : Nat) (ts : List Token)
    : bracesPair d (withoutComments level ts) = bracesPair d ts := by
  induction ts generalizing level d with
  | nil => rfl
  | cons t ts ih =>
      cases t with
      | text s k n =>
          rw [withoutComments_text]
          exact ih _ d
      | opening n =>
          rw [withoutComments_opening]
          exact ih _ (d + 1)
      | closing n =>
          rw [withoutComments_closing]
          cases d with
          | zero => rfl
          | succ d => exact ih _ d

/-- Faults depend on headings of tables and on braces alone. -/
theorem fault?_congr (heading : ts.map isTableHeading = us.map isTableHeading)
    (opening : ts.map isOpening = us.map isOpening)
    (closing : ts.map isClosing = us.map isClosing) (pair : bracesPair 0 ts = bracesPair 0 us)
    : fault? ts = fault? us := by
  have any (ts : List Token) : ts.any isTableHeading = (ts.map isTableHeading).any id := by
    rw [List.any_map]
    rfl
  have count (p : Token → Bool) (ts : List Token) : ts.countP p = (ts.map p).countP id := by
    rw [List.countP_map]
    rfl
  rw [fault?, fault?, any, any us, count, count isClosing, count _ us, count isClosing us, heading,
    opening, closing, pair]

theorem fault?_withoutComments (level : Level) (ts : List Token)
    : fault? (withoutComments level ts) = fault? ts := by
  refine fault?_congr (map_withoutComments ?_ level ts) (map_withoutComments ?_ level ts)
    (map_withoutComments ?_ level ts) (bracesPair_withoutComments level 0 ts)
  all_goals
    intro t
    cases t <;> rfl

theorem fault?_unplaced (ts : List Token)
    : fault? (ts.map unplaced) = fault? ts := by
  refine fault?_congr ?_ ?_ ?_ (bracesPair_unplaced 0 ts)
  all_goals
    rw [List.map_map]
    refine List.map_congr_left fun t _ => ?_
    cases t <;> rfl

end

/-- Two texts are read alike if their tokens are the same without numbers of lines and without
comments outside of groups.
-/
theorem ofText_congr {a b : String}
    (h : withoutComments (.outermost none) ((scan a).map unplaced)
      = withoutComments (.outermost none) ((scan b).map unplaced))
    : Schema.ofText a = Schema.ofText b := by
  have fault (ts : List Token)
      : fault? ts = fault? (withoutComments (.outermost none) (ts.map unplaced)) := by
    rw [fault?_withoutComments, fault?_unplaced]
  have schema (ts : List Token)
      : schemaOf (Statement.ofTokens ts)
        = schemaOf
            (Statement.ofTokens (withoutComments (.outermost none) (ts.map unplaced))) := by
    rw [ofTokens_withoutComments, schemaOf_bare, ofTokens_unplaced]
  rw [Schema.ofText, Schema.ofText, fault, fault (scan b), schema, schema (scan b), h]

/-- A comment that is inserted before the end of a line, outside of strings and outside of groups,
changes nothing, whatever it says: neither the schema that is read nor the error that is reported.
-/
theorem ofText_insert_comment {before after comment : String}
    (outside : EndsOutside before.toList) (lineEnd : LineEnd after.toList)
    (ungrouped : ¬ InGroup (scan before)) (oneLine : '\n' ∉ comment.toList)
    : Schema.ofText (before ++ " // " ++ comment ++ after) = Schema.ofText (before ++ after) := by
  apply ofText_congr
  have oneLine' : '\n' ∉ ' ' :: comment.toList := by simp [oneLine]
  obtain ⟨ts, r, k, k', us, hbefore, hafter, hcomment⟩ := outside.scanned_comment oneLine' lineEnd
  have ungrouped' : (ts.foldl Level.next (.outermost none)).isGrouped = false := by
    rwa [InGroup, ← Level.after_unplaced, map_unplaced_scan, hbefore, Level.after,
      List.foldl_append, Bool.not_eq_true, Level.isGrouped_finished] at ungrouped
  have htext : (before ++ " // " ++ comment ++ after).toList
      = before.toList ++ ' ' :: '/' :: '/' :: (' ' :: comment.toList ++ after.toList) := by
    simp
  rw [map_unplaced_scan, map_unplaced_scan, htext, hcomment, String.toList_append, hafter,
    List.append_assoc, List.append_assoc, withoutComments_append _ ts, withoutComments_append _ ts,
    withoutComments_finished ungrouped']

/-- A text that breaks off after a line of a table, in whose note a brace stands. -/
def invoiceText : String :=
  "TableGroup billing \x7b
  invoices // all of them
\x7d
Table invoices \x7b
  number int [note: \"// \x7d\"]"

/-- What comes after it, with a line feed first. -/
def paymentText : String :=
  "
  payer users
\x7d"

/-- A comment with a brace, a quote and triple quotes in it is not read. -/
theorem ofText_insert_comment_quoted
    : EndsOutside invoiceText.toList ∧ LineEnd paymentText.toList ∧ ¬ InGroup (scan invoiceText)
      ∧ Schema.ofText (invoiceText ++ " // " ++ "\x7d '''it's \" \\\" " ++ paymentText)
        = Schema.ofText (invoiceText ++ paymentText) :=
  have outside : EndsOutside invoiceText.toList := by decide +kernel
  have lineEnd : LineEnd paymentText.toList := .inr ⟨"  payer users\n\x7d".toList, by decide⟩
  have ungrouped : ¬ InGroup (scan invoiceText) := by decide +kernel
  ⟨outside, lineEnd, ungrouped,
    ofText_insert_comment outside lineEnd ungrouped (by decide +kernel)⟩

end SchemaMarkup.Markup
