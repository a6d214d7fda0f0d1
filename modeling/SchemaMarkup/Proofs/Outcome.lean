import Mathlib.Data.List.Forall2

/-! Computations that may be refused: what a successful one has gone through. -/

namespace SchemaMarkup.Outcome

variable {ε α β : Type}

/-- A sequence of two computations succeeds when both do, by the outcome of the first. -/
theorem bind_eq_ok {x : Except ε α} {f : α → Except ε β} {b : β}
    : x >>= f = .ok b ↔ ∃ a, x = .ok a ∧ f a = .ok b := by
  cases x with
  | error e => simp [bind, Except.bind]
  | ok a => simp [bind, Except.bind]

/-- A computation that is seen to succeed has a result. -/
theorem exists_of_isSome_toOption {x : Except ε α} (h : x.toOption.isSome = true)
    : ∃ a, x = .ok a := by
  cases x with
  | error e => cases h
  | ok a => exact ⟨a, rfl⟩

/-- A computation over a list succeeds when it does on every element, and its results are
those of the elements in order, by induction on the list.
-/
theorem mapM_eq_ok {f : α → Except ε β} {as : List α} {bs : List β}
    : as.mapM f = .ok bs ↔ List.Forall₂ (fun a b => f a = .ok b) as bs := by
  induction as generalizing bs with
  | nil =>
      rw [List.mapM_nil, List.forall₂_nil_left_iff]
      exact ⟨fun h => (Except.ok.inj h).symm, fun h => by rw [h]; rfl⟩
  | cons a as ih =>
      rw [List.mapM_cons, bind_eq_ok, List.forall₂_cons_left_iff]
      constructor
      · intro h
        obtain ⟨b, hb, h⟩ := h
        obtain ⟨cs, hc, h⟩ := bind_eq_ok.mp h
        exact ⟨b, cs, hb, ih.mp hc, (Except.ok.inj h).symm⟩
      · intro h
        obtain ⟨b, cs, hb, hc, rfl⟩ := h
        exact ⟨b, hb, bind_eq_ok.mpr ⟨cs, ih.mpr hc, rfl⟩⟩

/-- A computation that succeeds on every element succeeds on the list, by induction. -/
theorem exists_mapM_eq_ok {f : α → Except ε β} {as : List α}
    (h : ∀ a ∈ as, ∃ b, f a = .ok b)
    : ∃ bs, as.mapM f = .ok bs := by
  induction as with
  | nil => exact ⟨[], rfl⟩
  | cons a as ih =>
      obtain ⟨b, hb⟩ := h a List.mem_cons_self
      obtain ⟨bs, hbs⟩ := ih fun a' ha => h a' (List.mem_cons_of_mem a ha)
      exact ⟨b :: bs, mapM_eq_ok.mpr (.cons hb (mapM_eq_ok.mp hbs))⟩

/-- The results over a list are those of a function, if they are so element by element. -/
theorem mapM_eq_ok_map {f : α → Except ε β} {g : α → β} {as : List α}
    (h : ∀ a ∈ as, f a = .ok (g a))
    : as.mapM f = .ok (as.map g) := by
  rw [mapM_eq_ok, List.forall₂_map_right_iff, List.forall₂_same]
  exact h

/-- Computations that only change the result of others do so over a list as well, by induction on
the list.
-/
theorem mapM_eq_map_mapM {γ : Type} {f : α → Except ε β} {f' : α → Except ε γ} {g : β → γ}
    {as : List α} (h : ∀ a ∈ as, f' a = (f a).map g)
    : as.mapM f' = (as.mapM f).map (List.map g) := by
  induction as with
  | nil => rfl
  | cons a as ih =>
      rw [List.mapM_cons, List.mapM_cons, h a List.mem_cons_self,
        ih fun b hb => h b (List.mem_cons_of_mem a hb)]
      cases f a with
      | error e => rfl
      | ok b =>
          cases as.mapM f with
          | error e => rfl
          | ok bs => rfl

/-- Results that keep a key of what they are results of have the same keys in order, by
induction on the list.
-/
theorem map_eq_of_mapM_eq_ok {κ : Type} {f : α → Except ε β} {key : α → κ} {key' : β → κ}
    {as : List α} {bs : List β} (hk : ∀ a b, f a = .ok b → key' b = key a)
    (h : as.mapM f = .ok bs)
    : bs.map key' = as.map key := by
  have hf := mapM_eq_ok.mp h
  clear h
  induction hf with
  | nil => rfl
  | cons hab _ ih => rw [List.map_cons, List.map_cons, hk _ _ hab, ih]

/-- What is related to a list element by element is related to some element of it, by induction
on the lists.
-/
theorem exists_of_forall₂ {R : α → β → Prop} {as : List α} {bs : List β} {b : β}
    (h : List.Forall₂ R as bs) (hb : b ∈ bs)
    : ∃ a ∈ as, R a b := by
  induction h with
  | nil => cases hb
  | @cons a c as _ hac _ ih =>
      rcases List.mem_cons.mp hb with rfl | hb
      · exact ⟨a, List.mem_cons_self, hac⟩
      · obtain ⟨a', ha', he⟩ := ih hb
        exact ⟨a', List.mem_cons_of_mem a ha', he⟩

/-- Every result is that of some element. -/
theorem exists_of_mem_mapM {f : α → Except ε β} {as : List α} {bs : List β} {b : β}
    (h : as.mapM f = .ok bs) (hb : b ∈ bs)
    : ∃ a ∈ as, f a = .ok b := by
  have hf : List.Forall₂ (fun a b => f a = .ok b) as bs := mapM_eq_ok.mp h
  obtain ⟨a, ha, he⟩ := exists_of_forall₂ hf hb
  exact ⟨a, ha, he⟩

end SchemaMarkup.Outcome
