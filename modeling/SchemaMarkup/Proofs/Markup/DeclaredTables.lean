import SchemaMarkup.Markup.Fragment
import SchemaMarkup.Proofs.Markup.Nesting
import SchemaMarkup.Proofs.Markup.Thinning

/-! The tables that a text names in its headings, and those that are read from it. A heading is
listed wherever it stands, but it declares a table only outside of all blocks and before one of its
own. So every table that is read is listed, and the two lists are the same exactly if no line looks
like a heading without being one.
-/

namespace SchemaMarkup.Markup

/-- The elements that a choice leaves are all that an extraction finds something in exactly if the
choice leaves those. By induction on the elements.
-/
theorem filterMap_filter_eq_iff {α β : Type} {found : α → Option β} {left : α → Bool} {as : List α}
    : as.filterMap found = (as.filter left).filterMap found
      ↔ ∀ a ∈ as, (found a).isSome = true → left a = true := by
  induction as with
  | nil => simp
  | cons a as ih =>
      rw [List.forall_mem_cons, ← ih]
      cases hl : left a with
      | true =>
          rw [List.filter_cons_of_pos hl, List.filterMap_cons, List.filterMap_cons]
          cases found a <;> simp
      | false =>
          rw [List.filter_cons_of_neg (by simp [hl]), List.filterMap_cons]
          cases hf : found a with
          | none => simp
          | some b =>
              -- The list without the element cannot be as long as that with it.
              have fewer := (List.filter_sublist (p := left) (l := as)).filterMap found
              refine iff_of_false (fun he => ?_) (by simp)
              have length := fewer.length_le
              rw [← he, List.length_cons] at length
              omega

namespace Place

variable {p : Place}

/-- The table that a line names if it is a heading, wherever it stands. -/
def named? (p : Place) : Option String :=
  match p.token with
  | .text s _ _ => tableHeading? s
  | _ => none

/-- Whether a place is one where a heading declares a table: outside of all blocks, and before one.
-/
def declares (p : Place) : Bool :=
  p.depth = 0 && startsBlock p.after

theorem isSome_named? (p : Place)
    : p.named?.isSome = p.token.isTableHeading := by
  obtain ⟨before, token, after⟩ := p
  cases token <;> rfl

/-- The heading of a block names a table if the line does, which then is no reference. -/
theorem heading?_bind_tableHeading? (p : Place)
    : p.heading?.bind tableHeading? = if startsBlock p.after then p.named? else none := by
  obtain ⟨before, token, after⟩ := p
  cases token with
  | text s comment n =>
      simp only [heading?, named?, ref?]
      by_cases refers : (Ref.ofLine? s).isSome = true
      · simp [tableHeading?_of_ref refers, Option.isNone_eq_false_iff.mpr refers]
      · rw [Bool.not_eq_true, Option.isSome_eq_false_iff] at refers
        simp only [refers, Bool.true_and]
        split <;> rfl
  | opening n => simp [heading?, named?]
  | closing n => simp [heading?, named?]

theorem name_table? (p : Place)
    : p.table?.map Table.name = if startsBlock p.after then p.named? else none := by
  rw [← heading?_bind_tableHeading?, table?, Option.map_map]
  exact congrFun Option.map_id _

end Place

theorem map_token_places (before ts : List Token)
    : (places before ts).map Place.token = ts := by
  induction ts generalizing before with
  | nil => rfl
  | cons t ts ih => rw [places, List.map_cons, ih]

/-- The tables that a text names are those that its places name. -/
theorem declaredTables_eq (text : String)
    : declaredTables text = (places [] (Token.scan text)).filterMap Place.named? := by
  conv => lhs; rw [declaredTables, ← map_token_places [] (Token.scan text), List.filterMap_map]
  refine List.filterMap_congr fun p _ => ?_
  rw [Place.named?]
  rfl

/-- The tables that are read from a text are those that the places where a heading declares name. -/
theorem tableNames_of_ofText {text : String} {s : Schema} (read : Schema.ofText text = .ok s)
    : s.tableNames
      = ((places [] (Token.scan text)).filter Place.declares).filterMap Place.named? := by
  obtain ⟨⟨_, paired⟩, made⟩ := (ofText_eq_ok_iff rfl).mp read
  rw [bracesPair_unplaced] at paired
  rw [ofTokens_unplaced, schemaOf_ofTokens paired] at made
  have split : (places [] (Token.scan text)).filter Place.declares
      = (outerPlaces [] (Token.scan text)).filter fun p => startsBlock p.after := by
    rw [outerPlaces, List.filter_filter]
    exact List.filter_congr fun p _ => Bool.and_comm _ _
  rw [← made, Schema.tableNames, schemaByDepth, List.map_filterMap, split, List.filterMap_filter]
  exact List.filterMap_congr fun p _ => p.name_table?

/-- Every table that is read from a text is among those that its headings name, in the same order.
No other is named exactly if every line that is a heading of a table stands outside of all blocks
and is followed by a block.
-/
theorem declared_tables_eq_iff {text : String} {s : Schema} (read : Schema.ofText text = .ok s)
    : s.tableNames.Sublist (declaredTables text)
      ∧ (declaredTables text = s.tableNames
        ↔ ∀ p ∈ places [] (Token.scan text), p.token.isTableHeading = true →
            p.depth = 0 ∧ startsBlock p.after = true) := by
  rw [declaredTables_eq, tableNames_of_ofText read]
  refine ⟨List.filter_sublist.filterMap _, filterMap_filter_eq_iff.trans ?_⟩
  simp only [Place.isSome_named?, Place.declares, Bool.and_eq_true, decide_eq_true_eq]

/-- A text with a heading that has an alias and settings, with a block in a block, and with a
heading whose brace stands on the next line.
-/
def shelvesText : String :=
  "Table main.shelves as s [note] \x7b
  room text
  indexes \x7b
    (room)
  \x7d
\x7d // not a \x7b
table \"old books\"
\x7b id int \x7d
"

/-- What such a text declares. -/
def shelves : Schema where
  tables := [
    { name := "main.shelves", fields := [{ name := "room", type := "text" }] },
    { name := "old books", fields := [{ name := "id", type := "int" }] }]

/-- The two tables that such a text names are read from it. -/
theorem declared_tables_eq_iff_shelves
    : Schema.ofText shelvesText = .ok shelves
      ∧ (∀ p ∈ places [] (Token.scan shelvesText), p.token.isTableHeading = true →
          p.depth = 0 ∧ startsBlock p.after = true)
      ∧ shelves.tableNames.Sublist (declaredTables shelvesText)
      ∧ declaredTables shelvesText = shelves.tableNames := by
  have read : Schema.ofText shelvesText = .ok shelves := by decide +kernel
  have alone : ∀ p ∈ places [] (Token.scan shelvesText), p.token.isTableHeading = true →
      p.depth = 0 ∧ startsBlock p.after = true := by decide +kernel
  obtain ⟨named, same⟩ := declared_tables_eq_iff read
  exact ⟨read, alone, named, same.mpr alone⟩

/-- A text with a field that is called `table`. -/
def bookingText : String :=
  "Table bookings \x7b
  guest text
  table text
\x7d
"

/-- A field that is called `table` is named as if it declared a table called like its type. -/
theorem declaredTables_lists_field
    : (Schema.ofText bookingText).toOption.map Schema.tableNames = some ["bookings"]
      ∧ declaredTables bookingText = ["bookings", "text"] := by
  decide +kernel

end SchemaMarkup.Markup
