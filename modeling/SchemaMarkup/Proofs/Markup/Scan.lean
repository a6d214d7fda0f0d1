import SchemaMarkup.Markup.Name
import SchemaMarkup.Markup.Scan
import SchemaMarkup.Proofs.Text.Blank
import SchemaMarkup.Proofs.Text.Word

/-! Scanning what was written. A written name is scanned as a whole and stands for the name,
whatever follows it, and a line without a colon before its first bracket is no line that starts
with a keyword and a colon.
-/

namespace SchemaMarkup.Markup

open Text

/-- Whether a name can be put between double quotes. -/
structure IsName (name : String) : Prop where
  nonempty : name ≠ ""
  unquoted : '"' ∉ name.toList

theorem IsName.toList_ne_nil {name : String} (h : IsName name)
    : name.toList ≠ [] :=
  fun he => h.nonempty (String.toList_eq_nil_iff.mp he)

/-- Whether a name is read back as it is written. -/
structure PlainName (name : String) : Prop where
  nonempty : name ≠ ""
  chars : ∀ c ∈ name.toList, c ≠ '"' ∧ c ≠ '\\' ∧ c ≠ '\n'

instance (name : String) : Decidable (PlainName name) :=
  decidable_of_iff (name ≠ "" ∧ name.toList.all (fun c => c ≠ '"' ∧ c ≠ '\\' ∧ c ≠ '\n') = true)
    ⟨fun h => ⟨h.1, by simpa using h.2⟩, fun h => ⟨h.1, by simpa using h.chars⟩⟩

theorem PlainName.isName {name : String} (h : PlainName name)
    : IsName name :=
  ⟨h.nonempty, fun hm => (h.chars _ hm).1 rfl⟩

theorem plainName_of_word {name : String} (h : isWordText name = true)
    : PlainName name where
  nonempty he := (isWordText_iff.mp h).1 (by rw [he]; rfl)
  chars c hc := by
    have hw := (isWordText_iff.mp h).2 c hc
    exact ⟨ne_of_isWord hw (by decide), ne_of_isWord hw (by decide), ne_of_isWord hw (by decide)⟩

/-- A name is written as it is if it is a word, and between double quotes otherwise. -/
theorem toList_writeName (name : String)
    : (isWordText name = true ∧ (writeName name).toList = name.toList)
      ∨ (writeName name).toList = '"' :: (name.toList ++ ['"']) := by
  rw [writeName]
  cases hw : isWordText name with
  | true => exact .inl ⟨rfl, rfl⟩
  | false => exact .inr (by simp)

/-- A written name begins with a visible character, of a word or the quote. -/
theorem head_writeName {name : String} {c : Char} (hc : c ∈ (writeName name).toList.head?)
    : isWord c = true ∨ c = '"' := by
  rcases toList_writeName name with ⟨hw, he⟩ | he
  · rw [he] at hc
    exact .inl ((isWordText_iff.mp hw).2 c (List.mem_of_mem_head? hc))
  · rw [he] at hc
    exact .inr (Option.some.inj hc).symm

/-- A written name is not empty. -/
theorem writeName_ne_nil (name : String)
    : (writeName name).toList ≠ [] := by
  rcases toList_writeName name with ⟨hw, he⟩ | he
  · rw [he]
    exact (isWordText_iff.mp hw).1
  · rw [he]
    exact List.cons_ne_nil _ _

/-- A written name is not the empty string. -/
theorem writeName_ne_empty (name : String)
    : writeName name ≠ "" := by
  intro he
  apply writeName_ne_nil name
  rw [he]
  rfl

/-- Neither the word characters nor the quote are blank. -/
theorem visible_head_writeName {name : String} {c : Char}
    (hc : c ∈ (writeName name).toList.head?)
    : isBlank c = false := by
  rcases head_writeName hc with h | rfl
  · exact isBlank_of_isWord h
  · decide

/-- A written name ends in a word character or a quote as well. -/
theorem getLast_writeName {name : String} {c : Char} (hc : c ∈ (writeName name).toList.getLast?)
    : isWord c = true ∨ c = '"' := by
  rcases toList_writeName name with ⟨hw, he⟩ | he
  · rw [he] at hc
    exact .inl ((isWordText_iff.mp hw).2 c (List.mem_of_mem_getLast? hc))
  · rw [he, ← List.cons_append, List.getLast?_concat] at hc
    exact .inr (Option.some.inj hc).symm

/-- A written name is trimmed. -/
theorem isTrimmed_writeName (name : String)
    : IsTrimmed (writeName name).toList := by
  refine ⟨fun c hc => visible_head_writeName hc, ?_⟩
  intro c hc
  rcases getLast_writeName hc with hw | rfl
  · exact isBlank_of_isWord hw
  · decide

/-- A written name stands for the name, since no word begins with a quote. -/
theorem readName_writeName (name : String)
    : readName (writeName name) = name := by
  rw [readName]
  rcases toList_writeName name with ⟨hw, he⟩ | he
  · obtain ⟨hne, hword⟩ := isWordText_iff.mp hw
    rw [he]
    cases hn : name.toList with
    | nil => exact absurd hn hne
    | cons c cs =>
        have hc : c ≠ '"' := ne_of_isWord (hword c (hn ▸ List.mem_cons_self)) (by decide)
        have hr : readNameChars (c :: cs) = c :: cs := by
          rw [readNameChars]
          intro ds hd
          exact hc (List.cons.inj hd).1
        rw [hr, ← hn, String.ofList_toList]
  · rw [he, ← List.cons_append, readNameChars_quoted, String.ofList_toList]

namespace Scan

/-- A nonempty run before a character of another kind is scanned up to that character. -/
theorem run_append {p : Char → Bool} {w rest : List Char} (hne : w ≠ [])
    (hw : ∀ c ∈ w, p c = true) (hr : ∀ c ∈ rest.head?, p c = false)
    : run p (w ++ rest) = some (w, rest) := by
  have ht : (w ++ rest).takeWhile p = w ∧ (w ++ rest).dropWhile p = rest := by
    rw [List.takeWhile_append_of_pos hw, List.dropWhile_append_of_pos hw]
    cases rest with
    | nil => simp
    | cons c cs =>
        have hc := hr c rfl
        simp [hc]
  cases w with
  | nil => exact absurd rfl hne
  | cons c w => rw [run, ht.1, ht.2]

/-- A nonempty text between double quotes is scanned as a whole. -/
theorem nameOf_quoted (bare : Char → Bool) {w : List Char} (hne : w ≠ [])
    (hw : '"' ∉ w) (rest : List Char)
    : nameOf bare ('"' :: (w ++ '"' :: rest)) = some ('"' :: (w ++ ['"']), rest) := by
  have hp : ∀ c ∈ w, decide (c ≠ '"') = true := fun c hc =>
    decide_eq_true fun he => hw (he ▸ hc)
  have ht : (w ++ '"' :: rest).takeWhile (· ≠ '"') = w := by
    rw [List.takeWhile_append_of_pos hp]
    simp
  have hd : (w ++ '"' :: rest).dropWhile (· ≠ '"') = '"' :: rest := by
    rw [List.dropWhile_append_of_pos hp]
    simp
  rw [nameOf, ht, hd]
  cases w with
  | nil => exact absurd rfl hne
  | cons c w => rfl

/-- A name as it may be written: a word, or a nonempty text between double quotes. -/
inductive Written : List Char → Prop
  | word {w : List Char} (nonempty : w ≠ []) (chars : ∀ c ∈ w, isWord c = true)
    : Written w
  | quoted {w : List Char} (nonempty : w ≠ []) (chars : '"' ∉ w)
    : Written ('"' :: (w ++ ['"']))

/-- A name that can be put between double quotes is written as one that may be scanned. -/
theorem written_writeName {name : String} (h : IsName name)
    : Written (writeName name).toList := by
  rcases toList_writeName name with ⟨hw, he⟩ | he
  · rw [he]
    exact .word (isWordText_iff.mp hw).1 (isWordText_iff.mp hw).2
  · rw [he]
    exact .quoted h.toList_ne_nil h.unquoted

/-- A name as it may be written is scanned as a whole before a character that is not bare. -/
theorem Written.nameOf_append {bare : Char → Bool} (hb : ∀ c, isWord c = true → bare c = true)
    {n rest : List Char} (h : Written n) (hr : ∀ c ∈ rest.head?, bare c = false)
    : nameOf bare (n ++ rest) = some (n, rest) := by
  cases h with
  | word nonempty chars =>
      rw [← run_append nonempty (fun c hc => hb c (chars c hc)) hr]
      cases n with
      | nil => exact absurd rfl nonempty
      | cons c cs =>
          have hc : c ≠ '"' := ne_of_isWord (chars c List.mem_cons_self) (by decide)
          rw [List.cons_append, nameOf]
          intro ds hd
          exact hc (List.cons.inj hd).1
  | quoted nonempty chars =>
      rw [List.cons_append, List.append_assoc]
      exact nameOf_quoted bare nonempty chars rest

theorem Written.name_append {n rest : List Char} (h : Written n)
    (hr : ∀ c ∈ rest.head?, isWord c = false)
    : Scan.name (n ++ rest) = some (n, rest) :=
  h.nameOf_append (fun _ hc => hc) hr

theorem name_writeName {name : String} (h : IsName name) {rest : List Char}
    (hr : ∀ c ∈ rest.head?, isWord c = false)
    : Scan.name ((writeName name).toList ++ rest) = some ((writeName name).toList, rest) :=
  (written_writeName h).name_append hr

/-- A written name is scanned as a whole before what is neither part of a word nor a dot. -/
theorem dottedName_writeName {name : String} (h : IsName name) (rest : List Char)
    (hr : ∀ c ∈ rest.head?, isWord c = false ∧ c ≠ '.')
    : dottedName ((writeName name).toList ++ rest) = some ((writeName name).toList, rest) :=
  (written_writeName h).nameOf_append (fun c hc => by rw [hc, Bool.true_or]) fun c hc => by
    simp [hr c hc]

/-- Two names with a dot between them are scanned as a path to a field before anything but a word
character.
-/
theorem fieldPath_append {table field rest : List Char} (ht : Written table) (hf : Written field)
    (hr : ∀ c ∈ rest.head?, isWord c = false)
    : fieldPath (table ++ '.' :: (field ++ rest)) = some ((table, field), rest) := by
  have hdot : ∀ c ∈ ('.' :: (field ++ rest)).head?, isWord c = false := by
    intro c hc
    obtain rfl := Option.some.inj hc
    decide
  simp [fieldPath, ht.name_append hdot, hf.name_append hr, char]

theorem fieldPath_writeName {table field : String} (ht : IsName table) (hf : IsName field)
    {rest : List Char} (hr : ∀ c ∈ rest.head?, isWord c = false)
    : fieldPath ((writeName table).toList ++ '.' :: ((writeName field).toList ++ rest))
      = some (((writeName table).toList, (writeName field).toList), rest) :=
  fieldPath_append (written_writeName ht) (written_writeName hf) hr

theorem blanks_space (cs : List Char)
    : blanks (' ' :: cs) = blanks cs :=
  rfl

theorem blanks_eq_self {cs : List Char} (h : ∀ c ∈ cs.head?, isBlank c = false)
    : blanks cs = cs :=
  trimLeft_eq_self h

/-- Nothing is passed over before a written name. -/
theorem blanks_writeName (name : String) (rest : List Char)
    : blanks ((writeName name).toList ++ rest) = (writeName name).toList ++ rest := by
  apply blanks_eq_self
  intro c hc
  refine @visible_head_writeName name c ?_
  cases hn : (writeName name).toList with
  | nil => exact absurd hn (writeName_ne_nil name)
  | cons d ds =>
      rw [hn] at hc
      exact hc

/-- White space before a written name is passed over up to the name. -/
theorem someBlanks_writeName (name : String) (rest : List Char)
    : someBlanks (' ' :: ((writeName name).toList ++ rest))
      = some ((writeName name).toList ++ rest) :=
  congrArg some (blanks_writeName name rest)

/-- A keyword is passed over where the text begins with its letters in any case. -/
theorem keyword_eq_some_iff {ks cs rest : List Char}
    : keyword ks cs = some rest
      ↔ ∃ w, cs = w ++ rest ∧ w.map foldCase = ks.map foldCase := by
  induction ks generalizing cs with
  | nil => simp [keyword]
  | cons k ks ih =>
      cases cs with
      | nil => simp [keyword]
      | cons c cs =>
          rw [keyword]
          split
          · rename_i same
            rw [ih]
            constructor
            · rintro ⟨w, rfl, hw⟩
              exact ⟨c :: w, rfl, by simp [same, hw]⟩
            · rintro ⟨w, hc, hw⟩
              cases w with
              | nil => simp at hw
              | cons d w =>
                  obtain ⟨rfl, rfl⟩ := List.cons.inj hc
                  exact ⟨w, rfl, (List.cons.inj hw).2⟩
          · rename_i other
            refine iff_of_false (fun h => nomatch h) ?_
            rintro ⟨w, hc, hw⟩
            cases w with
            | nil => simp at hw
            | cons d w =>
                obtain ⟨rfl, rfl⟩ := List.cons.inj hc
                exact other (List.cons.inj hw).1

/-- A keyword that is passed over before a character that is no letter of it ends before that
character.
-/
theorem keyword_append {ks w rest cs : List Char} (h : keyword ks (w ++ rest) = some cs)
    (other : ∀ c ∈ rest.head?, foldCase c ∉ ks.map foldCase)
    : ∃ u v, w = u ++ v ∧ cs = v ++ rest ∧ u.map foldCase = ks.map foldCase := by
  obtain ⟨u, split, spelled⟩ := keyword_eq_some_iff.mp h
  rcases List.append_eq_append_iff.mp split with ⟨v, rfl, hr⟩ | ⟨v, rfl, rfl⟩
  · cases v with
    | nil => exact ⟨w, [], by simp, hr.symm, by simpa using spelled⟩
    | cons c v =>
        have hc : foldCase c ∈ ks.map foldCase := spelled ▸ List.mem_map_of_mem (by simp)
        exact absurd hc (other c (by simp [hr]))
  · exact ⟨u, v, rfl, rfl, spelled⟩

end Scan
end SchemaMarkup.Markup
