/-! Finite maps that remember the order in which their keys first came in.
Writing to a present key keeps its place; a new key goes to the end. Keys are distinct by
construction, so the list of entries determines the map and its order.
-/

namespace SchemaMarkup

/-- Entries with distinct keys, in the order of first insertion. -/
structure OrderedMap (κ : Type) (β : Type) where
  /-- The key-value pairs in order. -/
  entries : List (κ × β)
  /-- No key occurs twice. -/
  nodup_keys : (entries.map Prod.fst).Nodup
deriving DecidableEq, Repr

namespace OrderedMap

variable {κ β γ : Type}

section Writing

variable [DecidableEq κ]

/-- Replace the value of a key in place, or add the pair at the end. -/
def insertEntry (k : κ) (v : β) : List (κ × β) → List (κ × β)
  | [] => [(k, v)]
  | e :: es => if e.1 = k then (k, v) :: es else e :: insertEntry k v es

/-- A present key keeps the key list, an absent one extends it, by induction. -/
theorem keys_insertEntry (k : κ) (v : β) (es : List (κ × β))
    : (insertEntry k v es).map Prod.fst
      = if k ∈ es.map Prod.fst then es.map Prod.fst else es.map Prod.fst ++ [k] := by
  induction es with
  | nil => simp [insertEntry]
  | cons e es ih =>
      by_cases h : e.1 = k
      · simp [insertEntry, h]
      · by_cases hm : k ∈ es.map Prod.fst
        · simp only [insertEntry, h, if_false, List.map_cons, ih, hm, if_true,
            List.mem_cons, or_true]
        · have hk : k ≠ e.1 := fun hk => h hk.symm
          simp only [insertEntry, h, if_false, List.map_cons, ih, hm, List.mem_cons, hk,
            or_self, List.cons_append]

end Writing

/-- The map without entries. -/
def empty : OrderedMap κ β :=
  ⟨[], .nil⟩

instance : EmptyCollection (OrderedMap κ β) :=
  ⟨empty⟩

instance : Inhabited (OrderedMap κ β) :=
  ⟨empty⟩

/-- The keys in order. -/
def keys (m : OrderedMap κ β) : List κ :=
  m.entries.map Prod.fst

/-- The values in the order of their keys. -/
def values (m : OrderedMap κ β) : List β :=
  m.entries.map Prod.snd

/-- Whether the map has no entry. -/
def isEmpty (m : OrderedMap κ β) : Bool :=
  m.entries.isEmpty

/-- Map every value, keys and order unchanged. -/
def mapValues (m : OrderedMap κ β) (f : κ → β → γ) : OrderedMap κ γ where
  entries := m.entries.map fun e => (e.1, f e.1 e.2)
  nodup_keys := by
    have h : (m.entries.map fun e => (e.1, f e.1 e.2)).map Prod.fst
        = m.entries.map Prod.fst := by
      simp [Function.comp_def]
    simpa only [h] using m.nodup_keys

/-- Keep the entries that pass a test. -/
def filter (m : OrderedMap κ β) (p : κ → β → Bool) : OrderedMap κ β where
  entries := m.entries.filter fun e => p e.1 e.2
  nodup_keys := m.nodup_keys.sublist (List.filter_sublist.map Prod.fst)

/-- The empty map has no keys. -/
@[simp]
theorem keys_empty
    : (empty : OrderedMap κ β).keys = [] :=
  rfl

/-- The keys are distinct, by the invariant. -/
theorem nodup (m : OrderedMap κ β)
    : m.keys.Nodup :=
  m.nodup_keys

/-- Mapping values keeps the keys. -/
@[simp]
theorem keys_mapValues (m : OrderedMap κ β) (f : κ → β → γ)
    : (m.mapValues f).keys = m.keys := by
  simp [keys, mapValues, Function.comp_def]

variable [DecidableEq κ]

-----------------------------------------------------------------------------------------
-- Reading and writing by key
-----------------------------------------------------------------------------------------

/-- Whether a key is present. -/
def contains (m : OrderedMap κ β) (k : κ) : Bool :=
  m.entries.any (·.1 = k)

/-- The value of a key, if it is present. -/
def get? (m : OrderedMap κ β) (k : κ) : Option β :=
  (m.entries.find? (·.1 = k)).map Prod.snd

/-- The value of a key, or the given default. -/
def getD (m : OrderedMap κ β) (k : κ) (v : β) : β :=
  (m.get? k).getD v

/-- Set the value of a key. -/
def insert (m : OrderedMap κ β) (k : κ) (v : β) : OrderedMap κ β where
  entries := insertEntry k v m.entries
  nodup_keys := by
    rw [keys_insertEntry]
    by_cases h : k ∈ m.entries.map Prod.fst
    · simpa [h] using m.nodup_keys
    · rw [if_neg h, List.nodup_append]
      refine ⟨m.nodup_keys, by simp, ?_⟩
      intro a ha b hb
      rw [List.mem_singleton.mp hb]
      intro e
      exact h (e ▸ ha)

/-- Forget a key. -/
def erase (m : OrderedMap κ β) (k : κ) : OrderedMap κ β where
  entries := m.entries.filter (·.1 ≠ k)
  nodup_keys := m.nodup_keys.sublist (List.filter_sublist.map Prod.fst)

/-- Insert pairs one after another: a later pair overwrites the value of an earlier one. -/
def insertAll (m : OrderedMap κ β) (es : List (κ × β)) : OrderedMap κ β :=
  es.foldl (fun m e => m.insert e.1 e.2) m

/-- The map of a list of pairs. -/
def ofList (es : List (κ × β)) : OrderedMap κ β :=
  empty.insertAll es

/-- Rename keys in place. -/
def mapKeys (m : OrderedMap κ β) (f : κ → κ) : OrderedMap κ β :=
  ofList (m.entries.map fun e => (f e.1, e.2))

-----------------------------------------------------------------------------------------
-- Every operation by its keys and its lookups
-----------------------------------------------------------------------------------------

/-- Inserting keeps the keys of a present key and appends an absent one. -/
theorem keys_insert (m : OrderedMap κ β) (k : κ) (v : β)
    : (m.insert k v).keys = if k ∈ m.keys then m.keys else m.keys ++ [k] :=
  keys_insertEntry k v m.entries

/-- Erasing removes the key alone. -/
theorem keys_erase (m : OrderedMap κ β) (k : κ)
    : (m.erase k).keys = m.keys.filter (· ≠ k) := by
  simp only [keys, erase, List.filter_map]
  rfl

/-- A key is present when it is one of the keys. -/
@[simp]
theorem contains_iff {m : OrderedMap κ β} {k : κ}
    : m.contains k = true ↔ k ∈ m.keys := by
  simp [contains, keys]

/-- A key has a value exactly when it is present. -/
theorem isSome_get? (m : OrderedMap κ β) (k : κ)
    : (m.get? k).isSome = m.contains k := by
  rw [Bool.eq_iff_iff]
  simp [get?, contains]

/-- Looking up after a write finds the written value at its key, by induction. -/
theorem get?_insert (m : OrderedMap κ β) (k k' : κ) (v : β)
    : (m.insert k v).get? k' = if k = k' then some v else m.get? k' := by
  simp only [get?, insert]
  generalize m.entries = es
  induction es with
  | nil => by_cases h : k = k' <;> simp [insertEntry, h]
  | cons e es ih =>
      by_cases h : e.1 = k
      · by_cases hk : k = k' <;> simp [insertEntry, h, hk]
      · rw [insertEntry, if_neg h, List.find?_cons, List.find?_cons]
        by_cases he : e.1 = k'
        · have hk : k ≠ k' := fun hk => h (he.trans hk.symm)
          simp [he, hk]
        · simpa [he] using ih

end OrderedMap
end SchemaMarkup
