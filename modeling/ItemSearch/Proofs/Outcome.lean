/-!
When a computation that may fail comes to a value, and when it fails: one step after the other, and
over a list.
-/

namespace ItemSearch

variable {ε ε' α β : Type}

theorem bind_eq_ok_iff {x : Except ε α} {f : α → Except ε β} {b : β} :
    (x >>= f) = .ok b ↔ ∃ a, x = .ok a ∧ f a = .ok b := by
  cases x <;> simp [bind, Except.bind]

theorem bind_eq_error_iff {x : Except ε α} {f : α → Except ε β} {e : ε} :
    (x >>= f) = .error e ↔ x = .error e ∨ ∃ a, x = .ok a ∧ f a = .error e := by
  cases x <;> simp [bind, Except.bind]

theorem pure_eq_ok_iff {a b : α} : (pure a : Except ε α) = .ok b ↔ a = b := by
  simp [pure, Except.pure]

theorem pure_ne_error {a : α} {e : ε} : (pure a : Except ε α) ≠ .error e := by
  simp [pure, Except.pure]

theorem map_eq_ok_iff {f : α → β} {x : Except ε α} {b : β} :
    f <$> x = .ok b ↔ ∃ a, x = .ok a ∧ f a = b := by
  cases x <;> simp [Functor.map, Except.map]

theorem map_eq_error_iff {f : α → β} {x : Except ε α} {e : ε} :
    f <$> x = .error e ↔ x = .error e := by
  cases x <;> simp [Functor.map, Except.map]

theorem mapError_eq_ok_iff {f : ε → ε'} {x : Except ε α} {a : α} :
    x.mapError f = .ok a ↔ x = .ok a := by
  cases x with
  | ok b =>
      show (.ok b : Except ε' α) = .ok a ↔ _
      simp
  | error e =>
      show (.error (f e) : Except ε' α) = .ok a ↔ _
      simp

theorem mapError_eq_error_iff {f : ε → ε'} {x : Except ε α} {e' : ε'} :
    x.mapError f = .error e' ↔ ∃ e, x = .error e ∧ f e = e' := by
  cases x with
  | ok b =>
      show (.ok b : Except ε' α) = .error e' ↔ _
      simp
  | error e =>
      show (.error (f e) : Except ε' α) = .error e' ↔ _
      simp

theorem toOption_eq_some_iff {x : Except ε α} {a : α} : x.toOption = some a ↔ x = .ok a := by
  cases x <;> simp [Except.toOption]

/-- A check that is made under a condition, and what comes after it. -/
theorem check_eq_ok_iff {c : Prop} [Decidable c] {check : Except ε Unit} {rest : Except ε α}
    {a : α} :
    (if c then (do check; rest) else rest) = .ok a ↔ (c → check = .ok ()) ∧ rest = .ok a := by
  by_cases hc : c
  · rw [if_pos hc, bind_eq_ok_iff]
    constructor
    · rintro ⟨⟨⟩, hcheck, hrest⟩
      exact ⟨fun _ => hcheck, hrest⟩
    · rintro ⟨hcheck, hrest⟩
      exact ⟨(), hcheck hc, hrest⟩
  · simp [hc]

/-- Where each item comes to a value exactly under a condition, so does the list. -/
theorem mapM_eq_ok_iff {f : α → Except ε β} {good : α → Prop} {value : α → β}
    {l : List α} (h : ∀ a ∈ l, ∀ b, f a = .ok b ↔ good a ∧ b = value a) {bs : List β} :
    l.mapM f = .ok bs ↔ (∀ a ∈ l, good a) ∧ bs = l.map value := by
  induction l generalizing bs with
  | nil =>
      rw [List.mapM_nil, pure_eq_ok_iff]
      simp [eq_comm]
  | cons a l ih =>
      rw [List.forall_mem_cons] at h
      simp only [List.mapM_cons, bind_eq_ok_iff, pure_eq_ok_iff, h.1, ih h.2,
        List.forall_mem_cons, List.map_cons]
      constructor
      · rintro ⟨_, ⟨ha, rfl⟩, _, ⟨hl, rfl⟩, rfl⟩
        exact ⟨⟨ha, hl⟩, rfl⟩
      · rintro ⟨⟨ha, hl⟩, rfl⟩
        exact ⟨_, ⟨ha, rfl⟩, _, ⟨hl, rfl⟩, rfl⟩

/-- The computation comes to a value. -/
def Succeeds (x : Except ε α) : Prop := ∃ a, x = .ok a

theorem succeeds_ok (a : α) : Succeeds (.ok a : Except ε α) := ⟨a, rfl⟩

theorem succeeds_pure (a : α) : Succeeds (pure a : Except ε α) := ⟨a, rfl⟩

theorem not_succeeds_error (e : ε) : ¬ Succeeds (.error e : Except ε α) := by
  simp [Succeeds]

theorem succeeds_bind_iff {x : Except ε α} {f : α → Except ε β} :
    Succeeds (x >>= f) ↔ ∃ a, x = .ok a ∧ Succeeds (f a) := by
  simp only [Succeeds, bind_eq_ok_iff]
  constructor
  · rintro ⟨b, a, ha, hb⟩
    exact ⟨a, ha, b, hb⟩
  · rintro ⟨a, ha, b, hb⟩
    exact ⟨b, a, ha, hb⟩

/-- What only puts the value of a computation into another form does not fail. -/
theorem succeeds_bind_pure_iff {x : Except ε α} {f : α → β} :
    Succeeds (do return f (← x)) ↔ Succeeds x := by
  simp only [succeeds_bind_iff, succeeds_pure, and_true]
  rfl

theorem succeeds_mapM_iff {f : α → Except ε β} {l : List α} :
    Succeeds (l.mapM f) ↔ ∀ a ∈ l, Succeeds (f a) := by
  induction l with
  | nil => simp [succeeds_pure]
  | cons a l ih =>
      simp only [List.mapM_cons, succeeds_bind_iff, succeeds_pure, and_true, List.forall_mem_cons,
        ← ih]
      constructor
      · rintro ⟨b, hb, hl⟩
        exact ⟨⟨b, hb⟩, hl⟩
      · rintro ⟨⟨b, hb⟩, hl⟩
        exact ⟨b, hb, hl⟩

/-- A list fails as one of its items does. -/
theorem exists_of_mapM_eq_error {f : α → Except ε β} {l : List α} {e : ε}
    (h : l.mapM f = .error e) : ∃ a ∈ l, f a = .error e := by
  induction l with
  | nil => exact absurd h pure_ne_error
  | cons a l ih =>
      simp only [List.mapM_cons, bind_eq_error_iff] at h
      rcases h with ha | ⟨b, -, hl | ⟨bs, -, hbs⟩⟩
      · exact ⟨a, List.mem_cons_self .., ha⟩
      · obtain ⟨c, hc, he⟩ := ih hl
        exact ⟨c, List.mem_cons_of_mem a hc, he⟩
      · exact absurd hbs pure_ne_error

end ItemSearch
