import Mathlib.Data.List.Infix
import SchemaMarkup.Proofs.Markup.Statements

/-! What a text declares, by the depth of its lines alone: how deep a line stands is how many more
braces have opened before it than closed. Reading the tokens one after the other, with a block
passed over whenever one is met, comes to the same.
-/

namespace SchemaMarkup.Markup

/-- How many blocks are open after some tokens: opening braces less closing ones. -/
def depth (ts : List Token) : Int :=
  ts.countP Token.isOpening - ts.countP Token.isClosing

/-- A token between those before it and those after it. -/
structure Place where
  before : List Token
  token : Token
  after : List Token

/-- The places of the tokens that come after others. -/
def places (before : List Token) : List Token → List Place
  | [] => []
  | t :: ts => ⟨before, t, ts⟩ :: places (before ++ [t]) ts

namespace Place

/-- How many blocks are open where the token stands. -/
def depth (p : Place) : Int :=
  Markup.depth p.before

/-- How many blocks are open when the token has been read. -/
def depthAfter (p : Place) : Int :=
  Markup.depth (p.before ++ [p.token])

/-- The line of text that heads no block. -/
def line? (p : Place) : Option BlockLine :=
  match p.token with
  | .text s comment _ => if startsBlock p.after then none else some ⟨s, comment⟩
  | _ => none

/-- The reference that a line states. -/
def ref? (p : Place) : Option Ref :=
  match p.token with
  | .text s _ _ => Ref.ofLine? s
  | _ => none

/-- The line of text that heads a block, if it is no reference. -/
def heading? (p : Place) : Option String :=
  match p.token with
  | .text s _ _ => if p.ref?.isNone && startsBlock p.after then some s else none
  | _ => none

end Place

/-- The lines of a block that stand in no inner block and head none. The block has been opened by
the last of the tokens before, and ends before the brace that closes it.
-/
def linesFrom (before ts : List Token) : List BlockLine :=
  (((places before ts).takeWhile (0 < ·.depthAfter)).filter (·.depth = 1)).filterMap Place.line?

namespace Place

/-- The lines of the block that a line at the outermost level heads. -/
def lines (p : Place) : List BlockLine :=
  match p.after with
  | [] => []
  | t :: ts => linesFrom (p.before ++ [p.token, t]) ts

/-- The table that a line heads, with the first note in its block. -/
def table? (p : Place) : Option Table :=
  (p.heading?.bind tableHeading?).map fun name => {
    name
    fields := p.lines.filterMap BlockLine.field?
    note := p.lines.findSome? BlockLine.note? }

/-- The group that a line heads if it heads no table, with the last note in its block. -/
def group? (p : Place) : Option TableGroup :=
  ((p.heading?.filter fun s => (tableHeading? s).isNone).bind groupHeading?).map fun heading => {
    name := heading.name
    members := p.lines.flatMap BlockLine.members
    note := p.lines.reverse.findSome? BlockLine.note?
    color := heading.color }

/-- The references of a line at the outermost level: its own, and those in the table it heads. -/
def refs (p : Place) : List Ref :=
  p.ref?.toList ++ if p.table?.isSome then p.lines.filterMap BlockLine.ref? else []

end Place

/-- The places at the outermost level. -/
def outerPlaces (before ts : List Token) : List Place :=
  (places before ts).filter (·.depth = 0)

/-- What tokens declare, by depth. -/
def schemaByDepth (ts : List Token) : Schema where
  tables := (outerPlaces [] ts).filterMap Place.table?
  refs := (outerPlaces [] ts).flatMap Place.refs
  groups := (outerPlaces [] ts).filterMap Place.group?

/-- What is read from tokens, by depth. They are refused if none of them is a table heading, and
otherwise if a brace closes that has not opened before, or if not as many close as open.
-/
def readByDepth (ts : List Token) : Except Error Schema :=
  if ∀ t ∈ ts, t.isTableHeading = false then .error .noTables
  else if (∃ us ∈ ts.inits, us.countP Token.isOpening < us.countP Token.isClosing)
      ∨ ts.countP Token.isOpening ≠ ts.countP Token.isClosing then
    .error (.unbalancedBraces (ts.countP Token.isOpening) (ts.countP Token.isClosing))
  else .ok (schemaByDepth ts)

-----------------------------------------------------------------------------------------
-- Braces that pair up
-----------------------------------------------------------------------------------------

section

variable {before ts : List Token} {s : String} {comment : Option String} {n : Nat} {t : Token}

@[simp]
theorem depth_nil
    : depth [] = 0 := rfl

@[simp]
theorem depth_text
    : depth (.text s comment n :: ts) = depth ts := rfl

@[simp]
theorem depth_opening
    : depth (.opening n :: ts) = depth ts + 1 := by
  simp [depth, List.countP_cons, Token.isOpening, Token.isClosing]
  omega

@[simp]
theorem depth_closing
    : depth (.closing n :: ts) = depth ts - 1 := by
  simp [depth, List.countP_cons, Token.isOpening, Token.isClosing]
  omega

@[simp]
theorem depth_append (ts us : List Token)
    : depth (ts ++ us) = depth ts + depth us := by
  simp only [depth, List.countP_append]
  omega

/-- Braces pair up if none closes that has not opened before, and as many close as open. By
induction on the tokens.
-/
theorem bracesPair_iff (d : Nat) (ts : List Token)
    : bracesPair d ts = true ↔ (∀ us ∈ ts.inits, 0 ≤ d + depth us) ∧ d + depth ts = 0 := by
  have first (d : Nat) (t : Token) (ts : List Token)
      : (∀ us ∈ (t :: ts).inits, 0 ≤ d + depth us) ↔ ∀ us ∈ ts.inits, 0 ≤ d + depth (t :: us) := by
    rw [List.inits_cons, List.forall_mem_cons, List.forall_mem_map, depth_nil]
    exact and_iff_right (by omega)
  fun_induction bracesPair d ts with
  | case1 d => simp
  | case2 d n ts ih =>
      have shift (i : Int) : (d : Int) + (i + 1) = (d + 1 : Nat) + i := by omega
      simp only [first, depth_opening, shift, ih]
  | case3 n ts =>
      refine iff_of_false Bool.false_ne_true fun h => ?_
      have hclosing := (first 0 _ ts).mp h.1 [] ((List.mem_inits [] ts).mpr List.nil_prefix)
      rw [depth_closing, depth_nil] at hclosing
      omega
  | case4 n ts d ih =>
      have shift (i : Int) : ((d + 1 : Nat) : Int) + (i - 1) = d + i := by omega
      simp only [first, depth_closing, shift, ih]
  | case5 d s comment n ts ih => simp only [first, depth_text, ih]

end

-----------------------------------------------------------------------------------------
-- Reading tokens and judging by depth
-----------------------------------------------------------------------------------------

section

variable {before ts : List Token} {t : Token}

theorem outerPlaces_cons (h : depth before = 0)
    : outerPlaces before (t :: ts) = ⟨before, t, ts⟩ :: outerPlaces (before ++ [t]) ts :=
  List.filter_cons_of_pos (decide_eq_true h)

/-- No place inside a block is at the outermost level. -/
theorem outerPlaces_inside (h : depth before ≠ 0)
    : outerPlaces before (t :: ts) = outerPlaces (before ++ [t]) ts :=
  List.filter_cons_of_neg (by simp [Place.depth, h])

/-- A block goes on after a token that does not close it. -/
theorem linesFrom_cons (h : 0 < depth (before ++ [t]))
    : linesFrom before (t :: ts)
      = (if depth before = 1 then (Place.line? ⟨before, t, ts⟩).toList else [])
        ++ linesFrom (before ++ [t]) ts := by
  rw [linesFrom, places, List.takeWhile_cons_of_pos (by simpa [Place.depthAfter] using h)]
  by_cases hd : depth before = 1
  · rw [List.filter_cons_of_pos (by simp [Place.depth, hd]), if_pos hd, List.filterMap_cons]
    cases Place.line? ⟨before, t, ts⟩ <;> rfl
  · rw [List.filter_cons_of_neg (by simp [Place.depth, hd]), if_neg hd]
    rfl

theorem linesFrom_closed (h : depth (before ++ [t]) = 0)
    : linesFrom before (t :: ts) = [] := by
  rw [linesFrom, places, List.takeWhile_cons_of_neg]
  · rfl
  · simp [Place.depthAfter, h]

end

/-- From inside a block, with some inner blocks open, its remaining lines are read and then what
follows its closing brace is left; no line of it stands at the outermost level. By induction on the
tokens, with the cases of the reader.
-/
theorem blockLines_places {k : Nat} {before ts : List Token} (hd : depth before = k + 1)
    (hb : bracesPair (k + 1) ts = true)
    : linesFrom before ts = (blockLines k ts).1
      ∧ bracesPair 0 (blockLines k ts).2 = true
      ∧ ∃ before', depth before' = 0
        ∧ outerPlaces before ts = outerPlaces before' (blockLines k ts).2 := by
  fun_induction blockLines k ts generalizing before with
  | case1 k => cases hb
  | case2 n ts =>
      have hnext : depth (before ++ [.closing n]) = 0 := by
        simp [hd]
      refine ⟨linesFrom_closed hnext, hb, before ++ [.closing n], hnext, ?_⟩
      exact outerPlaces_inside (by omega)
  | case3 n ts k ih =>
      have hnext : depth (before ++ [.closing n]) = k + 1 := by
        simp only [depth_append, hd, depth_closing, depth_nil]
        omega
      obtain ⟨hl, hp, before', hz, ho⟩ := ih hnext hb
      refine ⟨?_, hp, before', hz, ?_⟩
      · rw [linesFrom_cons (by omega), if_neg (by omega), hl]
        rfl
      · rw [outerPlaces_inside (by omega), ho]
  | case4 k n ts ih =>
      have hnext : depth (before ++ [.opening n]) = (k + 1 : Nat) + 1 := by
        simp [hd]
      obtain ⟨hl, hp, before', hz, ho⟩ := ih hnext hb
      refine ⟨?_, hp, before', hz, ?_⟩
      · rw [linesFrom_cons (by omega), hl]
        simp [Place.line?]
      · rw [outerPlaces_inside (by omega), ho]
  | case5 k s comment n ts lines rest hl hs ih =>
      have hnext : depth (before ++ [.text s comment n]) = k + 1 := by
        simp [hd]
      obtain ⟨hlines, hp, before', hz, ho⟩ := ih hnext hb
      rw [hl] at hlines hp ho
      simp only [Bool.and_eq_true, decide_eq_true_eq, Bool.not_eq_true'] at hs
      refine ⟨?_, hp, before', hz, ?_⟩
      · rw [linesFrom_cons (by omega), if_pos (by omega), hlines]
        simp [Place.line?, hs.2]
      · rw [outerPlaces_inside (by omega), ho]
  | case6 k s comment n ts lines rest hl hs ih =>
      have hnext : depth (before ++ [.text s comment n]) = k + 1 := by
        simp [hd]
      obtain ⟨hlines, hp, before', hz, ho⟩ := ih hnext hb
      rw [hl] at hlines hp ho
      refine ⟨?_, hp, before', hz, ?_⟩
      · have hnone : depth before = 1 → Place.line? ⟨before, .text s comment n, ts⟩ = none := by
          intro hone
          obtain rfl : k = 0 := by omega
          simpa [Place.line?] using hs
        rw [linesFrom_cons (by omega), hlines]
        split
        · rename_i hone
          rw [hnone hone]
          rfl
        · rfl
      · rw [outerPlaces_inside (by omega), ho]

namespace Place

/-- The statement that a line at the outermost level makes. -/
def statement? (p : Place) : Option Statement :=
  match p.ref? with
  | some r => some (.ref r)
  | none => p.heading?.bind (Statement.ofBlock? · p.lines)

variable {p : Place}

theorem heading?_of_ref? {r : Ref} (h : p.ref? = some r)
    : p.heading? = none := by
  rw [heading?]
  split
  · rw [h]
    rfl
  · rfl

/-- The statement of a place declares the table that the place heads. -/
theorem table?_statement? (p : Place)
    : p.statement?.bind Statement.table? = p.table? := by
  rw [statement?, table?]
  cases hr : p.ref? with
  | some r =>
      rw [heading?_of_ref? hr]
      rfl
  | none =>
      cases p.heading? with
      | none => rfl
      | some s =>
          simp only [Option.bind_some, Statement.ofBlock?]
          cases tableHeading? s with
          | some name => rfl
          | none => cases groupHeading? s <;> rfl

/-- The statement of a place declares the group that the place heads. -/
theorem group?_statement? (p : Place)
    : p.statement?.bind Statement.group? = p.group? := by
  rw [statement?, group?]
  cases hr : p.ref? with
  | some r =>
      rw [heading?_of_ref? hr]
      rfl
  | none =>
      cases p.heading? with
      | none => rfl
      | some s =>
          simp only [Option.bind_some, Statement.ofBlock?, Option.filter_some]
          cases tableHeading? s with
          | some name => rfl
          | none =>
              rw [Option.isNone_none, if_pos rfl, Option.bind_some]
              cases groupHeading? s <;> rfl

/-- The statement of a place makes the references of the place. -/
theorem refs_statement? (p : Place)
    : p.statement?.toList.flatMap Statement.refs = p.refs := by
  rw [statement?, refs, table?]
  cases hr : p.ref? with
  | some r =>
      rw [heading?_of_ref? hr]
      rfl
  | none =>
      cases p.heading? with
      | none => rfl
      | some s =>
          simp only [Option.bind_some, Statement.ofBlock?]
          split
          · rename_i name ht
            simp [ht, Statement.refs]
          · rename_i ht
            cases groupHeading? s <;> simp [ht, Statement.refs]

end Place

/-- The statements of tokens are those that the places at the outermost level make, by induction
with the cases of the reader.
-/
theorem ofTokens_eq {before ts : List Token} (hd : depth before = 0) (hb : bracesPair 0 ts = true)
    : Statement.ofTokens ts = (outerPlaces before ts).filterMap Place.statement? := by
  have next {before : List Token} (h : depth before = 0) (s : String) (comment : Option String)
      (n : Nat)
      : depth (before ++ [.text s comment n]) = 0 := by
    simp [h]
  fun_induction Statement.ofTokens ts generalizing before with
  | case1 => rfl
  | case2 n ts ih => cases hb
  | case3 n ts ih =>
      have hopened : depth (before ++ [.opening n]) = (0 : Nat) + 1 := by
        simp [hd]
      obtain ⟨_, hrest, before', hz, ho⟩ := blockLines_places hopened hb
      rw [skipBlock_eq] at ih ⊢
      rw [outerPlaces_cons hd, ho, ih hz hrest]
      rfl
  | case4 s comment n r ts hr ih =>
      have hp : Place.statement? ⟨before, .text s comment n, ts⟩ = some (.ref r) := by
        simp [Place.statement?, Place.ref?, hr]
      rw [outerPlaces_cons hd, List.filterMap_cons_some hp, ← ih (next hd s comment n) hb]
  | case5 s comment n m ts hr ih =>
      have hopened : depth (before ++ [.text s comment n, .opening m]) = (0 : Nat) + 1 := by
        simp [hd]
      obtain ⟨hlines, hrest, before', hz, ho⟩ := blockLines_places hopened hb
      have hp : Place.statement? ⟨before, .text s comment n, .opening m :: ts⟩
          = Statement.ofBlock? s (blockLines 0 ts).1 := by
        rw [← hlines]
        simp [Place.statement?, Place.heading?, Place.ref?, Place.lines, startsBlock, hr]
      have hbrace : Place.statement? ⟨before ++ [.text s comment n], .opening m, ts⟩ = none := rfl
      rw [readBlock_eq] at ih ⊢
      rw [outerPlaces_cons hd, outerPlaces_cons (next hd s comment n), List.append_assoc,
        List.singleton_append, ho, List.filterMap_cons, hp, List.filterMap_cons_none hbrace,
        ih hz hrest]
      cases Statement.ofBlock? s (blockLines 0 ts).1 <;> rfl
  | case6 s comment n ts hne hr ih =>
      have hs : startsBlock ts = false := startsBlock_eq_false hne
      have hp : Place.statement? ⟨before, .text s comment n, ts⟩ = none := by
        simp [Place.statement?, Place.heading?, Place.ref?, hr, hs]
      rw [outerPlaces_cons hd, List.filterMap_cons_none hp, ih (next hd s comment n) hb]

/-- The statements of tokens whose braces pair up make up the schema that is declared by depth. -/
theorem schemaOf_ofTokens {ts : List Token} (h : bracesPair 0 ts = true)
    : schemaOf (Statement.ofTokens ts) = schemaByDepth ts := by
  rw [ofTokens_eq depth_nil h, schemaOf, schemaByDepth, List.filterMap_filterMap,
    List.filterMap_filterMap, List.filterMap_eq_flatMap_toList Place.statement?, List.flatMap_assoc]
  simp only [Place.table?_statement?, Place.group?_statement?, Place.refs_statement?]

/-- Braces do not pair up if one closes that has not opened before, or not as many close as open. -/
theorem bracesPair_eq_false_iff (ts : List Token)
    : bracesPair 0 ts = false
      ↔ (∃ us ∈ ts.inits, us.countP Token.isOpening < us.countP Token.isClosing)
        ∨ ts.countP Token.isOpening ≠ ts.countP Token.isClosing := by
  have fewer (us : List Token) : 0 ≤ ((0 : Nat) : Int) + depth us
      ↔ ¬ us.countP Token.isOpening < us.countP Token.isClosing := by
    rw [depth]
    omega
  have same : ((0 : Nat) : Int) + depth ts = 0
      ↔ ts.countP Token.isOpening = ts.countP Token.isClosing := by
    rw [depth]
    omega
  rw [← Bool.not_eq_true, bracesPair_iff]
  simp only [fewer, same, not_and_or, not_forall, not_not, exists_prop, ne_eq]

/-- A text is read as its tokens declare by depth, unless it is refused. -/
theorem ofText_eq_readByDepth (text : String)
    : Schema.ofText text = readByDepth (Token.scan text) := by
  have headings : (!(Token.scan text).any Token.isTableHeading) = true
      ↔ ∀ t ∈ Token.scan text, t.isTableHeading = false := by
    simp
  have braces : (!bracesPair 0 (Token.scan text)) = true
      ↔ (∃ us ∈ (Token.scan text).inits, us.countP Token.isOpening < us.countP Token.isClosing)
        ∨ (Token.scan text).countP Token.isOpening ≠ (Token.scan text).countP Token.isClosing := by
    rw [Bool.not_eq_true', bracesPair_eq_false_iff]
  simp only [Schema.ofText, fault?, readByDepth, ← headings, ← braces]
  by_cases hh : (!(Token.scan text).any Token.isTableHeading) = true
  · rw [if_pos hh, if_pos hh]
  · rw [if_neg hh, if_neg hh]
    by_cases hb : (!bracesPair 0 (Token.scan text)) = true
    · rw [if_pos hb, if_pos hb]
    · rw [if_neg hb, if_neg hb]
      rw [Bool.not_eq_true', Bool.not_eq_false] at hb
      rw [schemaOf_ofTokens hb]

end SchemaMarkup.Markup
