import ItemSearch.Text.Split

/-!
Cutting a text and joining the pieces undo each other. `cut?` finds the first separator and no
other, and `splitOn` reads back what `join` has written as long as no piece holds the separator.
`ArePieces` says what the pieces of a text are, without the scan for them.
-/

namespace ItemSearch.Text

/-- What all characters of a text are is decided one by one. -/
theorem forall_mem_of_all {p : Char → Prop} [DecidablePred p] {s : List Char}
    (h : (s.all fun c => decide (p c)) = true) : ∀ c ∈ s, p c := by
  simpa using h

variable {sep : Char}

/-! ### At the first separator -/

theorem cutChars?_append {a : List Char} (h : sep ∉ a) (b : List Char) :
    cutChars? sep (a ++ sep :: b) = some (a, b) := by
  induction a with
  | nil => simp [cutChars?]
  | cons c a ih =>
      simp only [List.mem_cons, not_or] at h
      have hc : c ≠ sep := fun e => h.1 e.symm
      simp [cutChars?, hc, ih h.2]

theorem cutChars?_eq_some_iff {s a b : List Char} :
    cutChars? sep s = some (a, b) ↔ s = a ++ sep :: b ∧ sep ∉ a := by
  constructor
  · exact cutChars?_eq_some
  · rintro ⟨rfl, h⟩
    exact cutChars?_append h b

theorem cut?_eq_some_iff {s name rest : String} :
    cut? sep s = some (name, rest) ↔
      s = name ++ String.singleton sep ++ rest ∧ sep ∉ name.toList := by
  have hs : s = name ++ String.singleton sep ++ rest ↔
      s.toList = name.toList ++ sep :: rest.toList := by
    rw [← String.toList_inj]
    simp
  rw [hs, ← cutChars?_eq_some_iff, cut?, Option.map_eq_some_iff]
  constructor
  · rintro ⟨⟨a, b⟩, h, hp⟩
    obtain ⟨rfl, rfl⟩ := Prod.mk.inj hp
    simpa using h
  · intro h
    exact ⟨_, h, by simp⟩

theorem cutChars?_eq_none_iff {s : List Char} : cutChars? sep s = none ↔ sep ∉ s := by
  induction s with
  | nil => simp [cutChars?]
  | cons c rest ih =>
      by_cases hc : c = sep
      · simp [cutChars?, hc]
      · have hc' : sep ≠ c := fun e => hc e.symm
        simp [cutChars?, hc, hc', ih]

theorem after_of_not_mem {s : String} (h : sep ∉ s.toList) : after sep s = "" := by
  simp [after, cut?, cutChars?_eq_none_iff.mpr h]

theorem before_append {name : String} (h : sep ∉ name.toList) (rest : String) :
    before sep (name ++ String.singleton sep ++ rest) = name := by
  rw [before, cut?_eq_some_iff.mpr ⟨rfl, h⟩]
  rfl

theorem after_append {name : String} (h : sep ∉ name.toList) (rest : String) :
    after sep (name ++ String.singleton sep ++ rest) = rest := by
  rw [after, cut?_eq_some_iff.mpr ⟨rfl, h⟩]
  rfl

/-! ### At every separator -/

theorem joinChars_cons (sep p : List Char) {ps : List (List Char)} (h : ps ≠ []) :
    joinChars sep (p :: ps) = p ++ (sep ++ joinChars sep ps) := by
  obtain ⟨q, qs, rfl⟩ := List.exists_cons_of_ne_nil h
  rw [joinChars, List.append_assoc]
  simp

theorem not_mem_of_mem_splitChars {s piece : List Char} (h : piece ∈ splitChars sep s) :
    sep ∉ piece := by
  induction s generalizing piece with
  | nil =>
      simp only [splitChars, List.mem_singleton] at h
      simp [h]
  | cons c rest ih =>
      by_cases hc : c = sep
      · simp only [splitChars, hc, if_true, List.mem_cons] at h
        rcases h with rfl | h
        · simp
        · exact ih h
      · obtain ⟨p, ps, hs⟩ := List.exists_cons_of_ne_nil (splitChars_ne_nil sep rest)
        simp only [splitChars, hc, if_false, hs, consHead, List.mem_cons] at h
        rw [hs] at ih
        rcases h with rfl | h
        · have hp := ih (List.mem_cons_self ..)
          simp only [List.mem_cons, not_or]
          exact ⟨fun e => hc e.symm, hp⟩
        · exact ih (List.mem_cons_of_mem _ h)

theorem splitChars_of_not_mem {s : List Char} (h : sep ∉ s) : splitChars sep s = [s] := by
  induction s with
  | nil => rfl
  | cons c rest ih =>
      simp only [List.mem_cons, not_or] at h
      have hc : c ≠ sep := fun e => h.1 e.symm
      simp [splitChars, hc, ih h.2, consHead]

theorem splitChars_append {a : List Char} (h : sep ∉ a) (b : List Char) :
    splitChars sep (a ++ sep :: b) = a :: splitChars sep b := by
  induction a with
  | nil => simp [splitChars]
  | cons c a ih =>
      simp only [List.mem_cons, not_or] at h
      have hc : c ≠ sep := fun e => h.1 e.symm
      simp [splitChars, hc, ih h.2, consHead]

theorem splitChars_joinChars {pieces : List (List Char)} (hne : pieces ≠ [])
    (hsep : ∀ p ∈ pieces, sep ∉ p) : splitChars sep (joinChars [sep] pieces) = pieces := by
  induction pieces with
  | nil => exact absurd rfl hne
  | cons p ps ih =>
      have hp := hsep p (List.mem_cons_self ..)
      by_cases hps : ps = []
      · rw [hps, joinChars]
        exact splitChars_of_not_mem hp
      · rw [joinChars_cons [sep] p hps, List.singleton_append, splitChars_append hp,
          ih hps fun r hr => hsep r (List.mem_cons_of_mem p hr)]

theorem not_mem_of_mem_splitOn {s piece : String} (h : piece ∈ splitOn sep s) :
    sep ∉ piece.toList := by
  simp only [splitOn, List.mem_map] at h
  obtain ⟨p, hp, rfl⟩ := h
  simpa using not_mem_of_mem_splitChars hp

theorem splitOn_join {pieces : List String} (hne : pieces ≠ [])
    (hsep : ∀ p ∈ pieces, sep ∉ p.toList) :
    splitOn sep (join (String.singleton sep) pieces) = pieces := by
  have hchars : splitChars sep (joinChars [sep] (pieces.map String.toList)) =
      pieces.map String.toList := by
    apply splitChars_joinChars
    · simpa using hne
    · intro p hp
      obtain ⟨s, hs, rfl⟩ := List.mem_map.mp hp
      exact hsep s hs
  simp [splitOn, join, hchars, Function.comp_def]

/-- The text is the pieces with the separator from each to the next, and it is in none of them. -/
structure ArePieces (sep : Char) (s : String) (pieces : List String) : Prop where
  ne_nil : pieces ≠ []
  join_eq : join (String.singleton sep) pieces = s
  not_mem : ∀ piece ∈ pieces, sep ∉ piece.toList

/-- A text has one list of pieces, and splitting finds it. -/
theorem splitOn_eq_iff {s : String} {pieces : List String} :
    splitOn sep s = pieces ↔ ArePieces sep s pieces := by
  constructor
  · rintro rfl
    refine ⟨?_, ?_, fun piece => not_mem_of_mem_splitOn⟩
    · simpa [splitOn] using splitChars_ne_nil sep s.toList
    · simp [join, splitOn, Function.comp_def, joinChars_splitChars]
  · rintro ⟨hne, rfl, hsep⟩
    exact splitOn_join hne hsep

end ItemSearch.Text
