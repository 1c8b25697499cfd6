import ItemSearch.Proofs.Text.Split
import ItemSearch.Text.Operator

/-!
What `splitWordChars` does, said without its scan. A text is its pieces with the word between
blanks from piece to piece, and `Pieces` is that relation: a piece that is not the last one is
closed, so that nothing splits inside it or where it meets the blanks, and what follows an operator
does not begin with a blank. `splitWordChars_eq_iff` says that the pieces in this sense are unique
and are what the scan finds; everything else about splitting is read off the relation.
-/

namespace ItemSearch.Text

/-- A word that may be an operator: some characters and no blank among them. -/
structure Bare (word : List Char) : Prop where
  ne_nil : word ≠ []
  not_blank : ∀ c ∈ word, isBlank c = false

/-- Blanks, one at least. -/
structure BlankRun (run : List Char) : Prop where
  ne_nil : run ≠ []
  blank : ∀ c ∈ run, isBlank c = true

def StartsBare (s : List Char) : Prop := ∀ c ∈ s.head?, isBlank c = false

def EndsBare (s : List Char) : Prop := ∀ c ∈ s.getLast?, isBlank c = false

/-- The word stands between blanks somewhere in the text. -/
def HasOperator (word s : List Char) : Prop :=
  ∃ before a b after, isBlank a = true ∧ isBlank b = true ∧
    s = before ++ a :: (word ++ b :: after)

/-- Blanks may follow the text without making an operator of its end. -/
structure Closed (word s : List Char) : Prop where
  endsBare : EndsBare s
  noOperator : ¬ HasOperator word (s ++ [' '])

/-- The pieces of a text between the occurrences of the word between blanks. -/
inductive Pieces (word : List Char) : List Char → List (List Char) → Prop where
  | last {s : List Char} (h : ¬ HasOperator word s) : Pieces word s [s]
  | cons {piece left right rest : List Char} {pieces : List (List Char)}
      (hpiece : Closed word piece) (hleft : BlankRun left) (hright : BlankRun right)
      (hstart : StartsBare rest) (hrest : Pieces word rest pieces) :
      Pieces word (piece ++ (left ++ (word ++ (right ++ rest)))) (piece :: pieces)

theorem bare_and : Bare "AND".toList where
  ne_nil := by decide
  not_blank := by
    intro c hc
    have hletter : c = 'A' ∨ c = 'N' ∨ c = 'D' := by simpa using hc
    rcases hletter with rfl | rfl | rfl <;> rfl

theorem bare_or : Bare "OR".toList where
  ne_nil := by decide
  not_blank := by
    intro c hc
    have hletter : c = 'O' ∨ c = 'R' := by simpa using hc
    rcases hletter with rfl | rfl <;> rfl

/-! ### Blanks at the ends of a text -/

@[simp] theorem isBlank_space : isBlank ' ' = true := by decide

theorem BlankRun.space : BlankRun [' '] := ⟨by simp, by simp⟩

theorem BlankRun.exists_first {run : List Char} (h : BlankRun run) :
    ∃ b rest, isBlank b = true ∧ run = b :: rest := by
  obtain ⟨b, rest, rfl⟩ := List.exists_cons_of_ne_nil h.ne_nil
  exact ⟨b, rest, h.blank b (List.mem_cons_self ..), rfl⟩

theorem BlankRun.exists_last {run : List Char} (h : BlankRun run) :
    ∃ init a, isBlank a = true ∧ run = init ++ [a] :=
  ⟨run.dropLast, run.getLast h.ne_nil, h.blank _ (List.getLast_mem _),
    (List.dropLast_concat_getLast _).symm⟩

theorem endsBare_nil : EndsBare [] := by simp [EndsBare]

theorem EndsBare.of_append {s t : List Char} (h : EndsBare (s ++ t)) : EndsBare t := by
  intro c hc
  apply h
  rw [Option.mem_def] at hc ⊢
  simp [List.getLast?_append, hc]

theorem EndsBare.of_operator {piece left word right rest : List Char}
    (h : EndsBare (piece ++ (left ++ (word ++ (right ++ rest))))) : EndsBare (right ++ rest) := by
  apply EndsBare.of_append (s := piece ++ (left ++ word))
  simpa using h

theorem BlankRun.not_startsBare {run : List Char} (hrun : BlankRun run) (rest : List Char) :
    ¬ StartsBare (run ++ rest) := by
  obtain ⟨b, run, hb, rfl⟩ := hrun.exists_first
  intro h
  have hbare := h b (by simp)
  rw [hb] at hbare
  exact absurd hbare (by simp)

/-- Something follows the blanks in a text that does not end with one. -/
theorem BlankRun.ne_nil_of_endsBare {right rest : List Char} (hright : BlankRun right)
    (h : EndsBare (right ++ rest)) : rest ≠ [] := by
  rintro rfl
  obtain ⟨init, a, ha, rfl⟩ := hright.exists_last
  have hbare := h a (by simp)
  rw [ha] at hbare
  exact absurd hbare (by simp)

theorem EndsBare.prepend {t : List Char} (h : EndsBare t) (ht : t ≠ []) (s : List Char) :
    EndsBare (s ++ t) := by
  intro c hc
  apply h
  rwa [Option.mem_def, List.getLast?_append, List.getLast?_eq_some_getLast ht] at *

theorem dropWhile_of_startsBare {s : List Char} (h : StartsBare s) : s.dropWhile isBlank = s := by
  cases s with
  | nil => rfl
  | cons c cs => simp [h c (by simp)]

theorem startsBare_dropWhile (s : List Char) : StartsBare (s.dropWhile isBlank) := by
  intro c hc
  have := List.head?_dropWhile_not isBlank s
  rwa [Option.mem_def.mp hc] at this

theorem dropWhile_append_of_blank {run rest : List Char} (hrun : ∀ c ∈ run, isBlank c = true)
    (hrest : StartsBare rest) : (run ++ rest).dropWhile isBlank = rest := by
  rw [List.dropWhile_append_of_pos hrun, dropWhile_of_startsBare hrest]

/-- The blanks that a text begins with, and the rest of it. -/
theorem exists_leading_blanks (s : List Char) :
    ∃ run, (∀ c ∈ run, isBlank c = true) ∧ s = run ++ s.dropWhile isBlank :=
  ⟨s.takeWhile isBlank, List.all_eq_true.mp List.all_takeWhile,
    List.takeWhile_append_dropWhile.symm⟩

theorem endsBare_iff_reverse {s : List Char} : EndsBare s ↔ StartsBare s.reverse := by
  simp [EndsBare, StartsBare]

/-- The blanks that a text ends with, behind those that it begins with. -/
theorem exists_trailing_blanks (s : List Char) :
    ∃ run, (∀ c ∈ run, isBlank c = true) ∧ s.dropWhile isBlank = trimChars s ++ run := by
  obtain ⟨run, hrun, hsplit⟩ := exists_leading_blanks (s.dropWhile isBlank).reverse
  refine ⟨run.reverse, by simpa using hrun, ?_⟩
  simpa [trimChars, dropRight] using congrArg List.reverse hsplit

theorem exists_blanks_around (s : List Char) :
    ∃ before after, (∀ c ∈ before, isBlank c = true) ∧ (∀ c ∈ after, isBlank c = true) ∧
      s = before ++ (trimChars s ++ after) := by
  obtain ⟨before, hbefore, hs⟩ := exists_leading_blanks s
  obtain ⟨after, hafter, hrest⟩ := exists_trailing_blanks s
  exact ⟨before, after, hbefore, hafter, by rw [← hrest, ← hs]⟩

theorem startsBare_trimChars (s : List Char) : StartsBare (trimChars s) := by
  obtain ⟨run, -, hsplit⟩ := exists_trailing_blanks s
  intro c hc
  apply startsBare_dropWhile s
  rw [hsplit, Option.mem_def, List.head?_append, Option.mem_def.mp hc]
  rfl

theorem endsBare_trimChars (s : List Char) : EndsBare (trimChars s) := by
  rw [endsBare_iff_reverse]
  simpa [trimChars, dropRight] using startsBare_dropWhile (s.dropWhile isBlank).reverse

theorem trimChars_of_bare {s : List Char} (hstart : StartsBare s) (hend : EndsBare s) :
    trimChars s = s := by
  rw [endsBare_iff_reverse] at hend
  rw [trimChars, dropRight, dropWhile_of_startsBare hstart, dropWhile_of_startsBare hend,
    List.reverse_reverse]

/-! ### The scan at one place -/

theorem dropWord?_eq_some_iff {word s rest : List Char} :
    dropWord? word s = some rest ↔ s = word ++ rest := by
  induction word generalizing s with
  | nil => simp [dropWord?]
  | cons w ws ih =>
      cases s with
      | nil => simp [dropWord?]
      | cons c cs =>
          by_cases hc : w = c
          · simp [dropWord?, hc, ih]
          · simp [dropWord?, hc, Ne.symm hc]

variable {word : List Char}

theorem Bare.startsBare_append (hword : Bare word) (s : List Char) : StartsBare (word ++ s) := by
  obtain ⟨w, ws, rfl⟩ := List.exists_cons_of_ne_nil hword.ne_nil
  intro c hc
  apply hword.not_blank
  simp_all

/-- The scan finds an operator where a run of blanks, the word, and another run of blanks stand.
It takes all of the second run. -/
theorem operator?_eq_some_iff (hword : Bare word) {s rest : List Char} :
    operator? word s = some rest ↔
      ∃ left right, BlankRun left ∧ BlankRun right ∧ StartsBare rest ∧
        s = left ++ (word ++ (right ++ rest)) := by
  constructor
  · intro h
    cases s with
    | nil => simp [operator?] at h
    | cons c cs =>
        simp only [operator?] at h
        split at h
        · next hc =>
            split at h
            · next d ds hd =>
                split at h
                · next hblank =>
                    obtain ⟨run, hrun, hcs⟩ := exists_leading_blanks cs
                    obtain ⟨run', hrun', hds⟩ := exists_leading_blanks ds
                    rw [dropWord?_eq_some_iff] at hd
                    rw [Option.some.injEq] at h
                    refine ⟨c :: run, d :: run', ⟨by simp, ?_⟩, ⟨by simp, ?_⟩, ?_, ?_⟩
                    · simpa [hc] using hrun
                    · simpa [hblank] using hrun'
                    · exact h ▸ startsBare_dropWhile ds
                    · rw [← h, List.cons_append, List.cons_append, ← hds, ← hd, ← hcs]
                · simp at h
            · simp at h
        · simp at h
  · rintro ⟨left, right, hleft, hright, hrest, rfl⟩
    obtain ⟨a, left, rfl⟩ := List.exists_cons_of_ne_nil hleft.ne_nil
    obtain ⟨b, right, rfl⟩ := List.exists_cons_of_ne_nil hright.ne_nil
    have ha := hleft.blank a (List.mem_cons_self ..)
    have hb := hright.blank b (List.mem_cons_self ..)
    have hdrop : (left ++ (word ++ (b :: right ++ rest))).dropWhile isBlank =
        word ++ (b :: (right ++ rest)) :=
      dropWhile_append_of_blank (fun c hc => hleft.blank c (List.mem_cons_of_mem a hc))
        (hword.startsBare_append _)
    have hrest' : (right ++ rest).dropWhile isBlank = rest :=
      dropWhile_append_of_blank (fun c hc => hright.blank c (List.mem_cons_of_mem b hc)) hrest
    have hword' : dropWord? word (word ++ (b :: (right ++ rest))) = some (b :: (right ++ rest)) :=
      dropWord?_eq_some_iff.mpr rfl
    simp only [List.cons_append] at hdrop ⊢
    simp [operator?, ha, hdrop, hword', hb, hrest']

/-! ### Operators and the texts around them -/

theorem not_hasOperator_nil : ¬ HasOperator word [] := by
  rintro ⟨before, a, b, after, -, -, h⟩
  simp at h

theorem hasOperator_cons_iff {c : Char} {s : List Char} :
    HasOperator word (c :: s) ↔
      (isBlank c = true ∧ ∃ b after, isBlank b = true ∧ s = word ++ b :: after) ∨
        HasOperator word s := by
  constructor
  · rintro ⟨before, a, b, after, ha, hb, h⟩
    cases before with
    | nil =>
        obtain ⟨rfl, rfl⟩ := List.cons.inj h
        exact Or.inl ⟨ha, b, after, hb, rfl⟩
    | cons d before =>
        obtain ⟨rfl, rfl⟩ := List.cons.inj h
        exact Or.inr ⟨before, a, b, after, ha, hb, rfl⟩
  · rintro (⟨hc, b, after, hb, rfl⟩ | ⟨before, a, b, after, ha, hb, rfl⟩)
    · exact ⟨[], c, b, after, hc, hb, rfl⟩
    · exact ⟨c :: before, a, b, after, ha, hb, rfl⟩

theorem HasOperator.append {s : List Char} (h : HasOperator word s) (t : List Char) :
    HasOperator word (s ++ t) := by
  obtain ⟨before, a, b, after, ha, hb, rfl⟩ := h
  exact ⟨before, a, b, after ++ t, ha, hb, by simp⟩

theorem Closed.tail {c : Char} {s : List Char} (h : Closed word (c :: s)) : Closed word s where
  endsBare := EndsBare.of_append (s := [c]) h.endsBare
  noOperator := fun hs => h.noOperator (hasOperator_cons_iff.mpr (Or.inr hs))

theorem closed_nil : Closed word [] where
  endsBare := endsBare_nil
  noOperator := by
    rw [List.nil_append, hasOperator_cons_iff, not_or]
    refine ⟨?_, not_hasOperator_nil⟩
    rintro ⟨-, b, after, -, h⟩
    simp at h

/-- Where the word stands between two blanks, the scan finds it. -/
theorem operator?_isSome (hword : Bare word) {a b : Char} (ha : isBlank a = true)
    (hb : isBlank b = true) (after : List Char) :
    ∃ rest, operator? word (a :: (word ++ b :: after)) = some rest := by
  obtain ⟨run, hrun, hafter⟩ := exists_leading_blanks after
  refine ⟨after.dropWhile isBlank, (operator?_eq_some_iff hword).mpr
    ⟨[a], b :: run, ⟨by simp, by simpa using ha⟩, ⟨by simp, by simpa [hb] using hrun⟩,
      startsBare_dropWhile after, ?_⟩⟩
  rw [List.singleton_append, List.cons_append, ← hafter]

theorem operator?_eq_none {c : Char} {cs : List Char} (hword : Bare word)
    (h : ¬ HasOperator word (c :: cs)) : operator? word (c :: cs) = none := by
  rw [Option.eq_none_iff_forall_ne_some]
  intro rest hrest
  obtain ⟨left, right, hleft, hright, -, heq⟩ := (operator?_eq_some_iff hword).mp hrest
  obtain ⟨init, a, ha, rfl⟩ := hleft.exists_last
  obtain ⟨b, tail, hb, rfl⟩ := hright.exists_first
  exact h ⟨init, a, b, tail ++ rest, ha, hb, by simp [heq]⟩

/-- Inside a closed text the scan finds nothing, even where blanks and more follow the text. -/
theorem operator?_append_eq_none (hword : Bare word) {c : Char} {cs left t : List Char}
    (hs : Closed word (c :: cs)) (hleft : BlankRun left) :
    operator? word (c :: (cs ++ (left ++ t))) = none := by
  rw [Option.eq_none_iff_forall_ne_some]
  intro rest hrest
  obtain ⟨l, r, hl, hr, -, heq⟩ := (operator?_eq_some_iff hword).mp hrest
  obtain ⟨init, a, ha, rfl⟩ := hl.exists_last
  obtain ⟨b, tail, hb, rfl⟩ := hr.exists_first
  rw [← List.cons_append] at heq
  rcases List.append_eq_append_iff.mp heq with ⟨more, hmore, -⟩ | ⟨q, hq, hrest'⟩
  · -- the text is among the blanks, but it does not end with one
    have hlast : (c :: cs).getLast (by simp) ∈ init ++ [a] := by
      rw [hmore]
      exact List.mem_append_left _ (List.getLast_mem _)
    have hbare := hs.endsBare ((c :: cs).getLast (by simp)) (List.getLast?_eq_some_getLast _)
    rw [hl.blank _ hlast] at hbare
    exact absurd hbare (by simp)
  · rcases List.append_eq_append_iff.mp hrest' with ⟨more, rfl, hmore⟩ | ⟨more, rfl, hmore⟩
    · apply hs.noOperator
      cases more with
      | nil => exact ⟨init, a, ' ', [], ha, isBlank_space, by simp [hq]⟩
      | cons d more =>
          obtain ⟨rfl, -⟩ := List.cons.inj hmore
          exact ⟨init, a, b, more ++ [' '], ha, hb, by simp [hq]⟩
    · cases more with
      | nil =>
          apply hs.noOperator
          exact ⟨init, a, ' ', [], ha, isBlank_space, by simp [hq]⟩
      | cons d more =>
          -- a blank cannot stand inside the word
          obtain ⟨e, run, he, rfl⟩ := hleft.exists_first
          obtain ⟨rfl, -⟩ := List.cons.inj hmore
          have hbare := hword.not_blank e (by simp)
          rw [he] at hbare
          exact absurd hbare (by simp)

/-! ### Splitting -/

theorem splitWordChars_of_operator? {s rest : List Char} (h : operator? word s = some rest) :
    splitWordChars word s = [] :: splitWordChars word rest := by
  cases s with
  | nil => simp [operator?] at h
  | cons c cs =>
      rw [splitWordChars]
      split
      · next rest' h' =>
          rw [h, Option.some.injEq] at h'
          rw [h']
      · next h' => simp [h] at h'

theorem splitWordChars_of_none {c : Char} {cs : List Char}
    (h : operator? word (c :: cs) = none) :
    splitWordChars word (c :: cs) = consHead c (splitWordChars word cs) := by
  rw [splitWordChars]
  split
  · next h' => simp [h] at h'
  · rfl

theorem splitWordChars_of_not_hasOperator (hword : Bare word) {s : List Char}
    (h : ¬ HasOperator word s) : splitWordChars word s = [s] := by
  induction s with
  | nil => simp [splitWordChars]
  | cons c cs ih =>
      have hcs : ¬ HasOperator word cs := fun hcs => h (hasOperator_cons_iff.mpr (Or.inr hcs))
      rw [splitWordChars_of_none (operator?_eq_none hword h), ih hcs, consHead]

theorem splitWordChars_append (hword : Bare word) {piece left right rest : List Char}
    (hpiece : Closed word piece) (hleft : BlankRun left) (hright : BlankRun right)
    (hstart : StartsBare rest) :
    splitWordChars word (piece ++ (left ++ (word ++ (right ++ rest)))) =
      piece :: splitWordChars word rest := by
  induction piece with
  | nil =>
      apply splitWordChars_of_operator?
      exact (operator?_eq_some_iff hword).mpr ⟨left, right, hleft, hright, hstart, rfl⟩
  | cons c cs ih =>
      rw [List.cons_append,
        splitWordChars_of_none (operator?_append_eq_none hword hpiece hleft), ih hpiece.tail,
        consHead]

theorem Pieces.splitWordChars_eq (hword : Bare word) {s : List Char} {pieces : List (List Char)}
    (h : Pieces word s pieces) : splitWordChars word s = pieces := by
  induction h with
  | last h => exact splitWordChars_of_not_hasOperator hword h
  | cons hpiece hleft hright hstart _ ih =>
      rw [splitWordChars_append hword hpiece hleft hright hstart, ih]

/-- The word and a blank at the front of a piece, where the blank may be the one behind the piece:
longer blanks behind the piece do as well. -/
theorem exists_blank_after {piece left : List Char} {b : Char} {after : List Char}
    (hb : isBlank b = true) (heq : piece ++ [' '] = word ++ b :: after) (hleft : BlankRun left)
    (t : List Char) :
    ∃ d rest, isBlank d = true ∧ piece ++ (left ++ t) = word ++ d :: rest := by
  obtain ⟨e, run, he, rfl⟩ := hleft.exists_first
  rcases List.append_eq_append_iff.mp heq with ⟨more, hmore, hspace⟩ | ⟨more, hmore, hafter⟩
  · have hnil : more = [] := by
      have := congrArg List.length hspace
      simp only [List.length_cons, List.length_append, List.length_nil] at this
      exact List.eq_nil_of_length_eq_zero (by omega)
    exact ⟨e, run ++ t, he, by simp [hmore, hnil]⟩
  · cases more with
    | nil => exact ⟨e, run ++ t, he, by simp [hmore]⟩
    | cons d more =>
        obtain ⟨rfl, -⟩ := List.cons.inj hafter
        exact ⟨b, more ++ (e :: run ++ t), hb, by simp [hmore]⟩

/-- A character in front of a text goes into its first piece unless an operator begins there. -/
theorem Pieces.cons_of_none (hword : Bare word) {c : Char} {cs : List Char}
    {pieces : List (List Char)} (h : Pieces word cs pieces)
    (hnone : operator? word (c :: cs) = none) : Pieces word (c :: cs) (consHead c pieces) := by
  cases h with
  | last h =>
      apply Pieces.last
      rw [hasOperator_cons_iff, not_or]
      refine ⟨?_, h⟩
      rintro ⟨hc, b, after, hb, rfl⟩
      obtain ⟨rest, hrest⟩ := operator?_isSome hword hc hb after
      rw [hrest] at hnone
      exact absurd hnone (by simp)
  | @cons piece left right rest pieces hpiece hleft hright hstart hrest =>
      have hclosed : Closed word (c :: piece) := by
        refine ⟨?_, ?_⟩
        · cases piece with
          | nil =>
              intro d hd
              obtain rfl : c = d := by simpa using hd
              rw [Bool.eq_false_iff]
              intro hc
              have hrun : BlankRun (c :: left) := ⟨by simp, by simpa [hc] using hleft.blank⟩
              have hsome := (operator?_eq_some_iff hword).mpr
                ⟨c :: left, right, hrun, hright, hstart, rfl⟩
              simp only [List.nil_append, List.cons_append] at hnone hsome
              rw [hsome] at hnone
              exact absurd hnone (by simp)
          | cons d piece => exact hpiece.endsBare
        · rw [List.cons_append, hasOperator_cons_iff, not_or]
          refine ⟨?_, hpiece.noOperator⟩
          rintro ⟨hc, b, after, hb, heq⟩
          obtain ⟨d, rest', hd, hcs⟩ :=
            exists_blank_after hb heq hleft (word ++ (right ++ rest))
          obtain ⟨after', hsome⟩ := operator?_isSome hword hc hd rest'
          rw [hcs, hsome] at hnone
          exact absurd hnone (by simp)
      exact Pieces.cons hclosed hleft hright hstart hrest

theorem pieces_splitWordChars (hword : Bare word) (s : List Char) :
    Pieces word s (splitWordChars word s) := by
  fun_induction splitWordChars word s with
  | case1 => exact Pieces.last not_hasOperator_nil
  | case2 c cs rest h ih =>
      -- the text begins with an operator, so its first piece is empty
      obtain ⟨left, right, hleft, hright, hstart, hs⟩ := (operator?_eq_some_iff hword).mp h
      rw [hs]
      exact Pieces.cons closed_nil hleft hright hstart ih
  | case3 c cs h ih => exact ih.cons_of_none hword h

/-- Splitting finds the pieces of a text, and there is one way to cut a text into pieces. -/
theorem splitWordChars_eq_iff (hword : Bare word) {s : List Char} {pieces : List (List Char)} :
    splitWordChars word s = pieces ↔ Pieces word s pieces := by
  constructor
  · rintro rfl
    exact pieces_splitWordChars hword s
  · exact fun h => h.splitWordChars_eq hword

/-! ### Trimmed texts -/

theorem Pieces.startsBare_of_mem {s : List Char} {pieces : List (List Char)}
    (h : Pieces word s pieces) (hs : StartsBare s) : ∀ piece ∈ pieces, StartsBare piece := by
  induction h with
  | last _ => simpa using hs
  | @cons piece left right rest pieces hpiece hleft hright hstart _ ih =>
      intro p hp
      rcases List.mem_cons.mp hp with rfl | hp
      · intro c hc
        apply hs
        rw [Option.mem_def, List.head?_append, Option.mem_def.mp hc]
        rfl
      · exact ih hstart p hp

theorem Pieces.endsBare_of_mem {s : List Char} {pieces : List (List Char)}
    (h : Pieces word s pieces) (hs : EndsBare s) : ∀ piece ∈ pieces, EndsBare piece := by
  induction h with
  | last _ => simpa using hs
  | @cons piece left right rest pieces hpiece hleft hright hstart _ ih =>
      intro p hp
      rcases List.mem_cons.mp hp with rfl | hp
      · exact hpiece.endsBare
      · exact ih hs.of_operator.of_append p hp

/-- Pieces of a trimmed text are trimmed. -/
theorem Pieces.trimChars_of_mem {s : List Char} {pieces : List (List Char)}
    (h : Pieces word (trimChars s) pieces) : ∀ piece ∈ pieces, trimChars piece = piece :=
  fun piece hp => trimChars_of_bare
    (h.startsBare_of_mem (startsBare_trimChars s) piece hp)
    (h.endsBare_of_mem (endsBare_trimChars s) piece hp)

/-! ### Writing the pieces again -/

/-- The word with one blank on either side. -/
def spaced (word : List Char) : List Char := [' '] ++ (word ++ [' '])

theorem Pieces.ne_nil {s : List Char} {pieces : List (List Char)} (h : Pieces word s pieces) :
    pieces ≠ [] := by
  cases h <;> simp

theorem joinChars_spaced_cons {piece rest : List Char} {pieces : List (List Char)}
    (h : Pieces word rest pieces) :
    joinChars (spaced word) (piece :: pieces) =
      piece ++ ([' '] ++ (word ++ ([' '] ++ joinChars (spaced word) pieces))) := by
  rw [joinChars_cons _ _ h.ne_nil]
  simp [spaced]

theorem Pieces.startsBare_join {s : List Char} {pieces : List (List Char)}
    (h : Pieces word s pieces) (hs : StartsBare s) :
    StartsBare (joinChars (spaced word) pieces) := by
  cases h with
  | last _ => exact hs
  | @cons piece left right rest pieces hpiece hleft hright hstart hrest =>
      rw [joinChars_spaced_cons hrest]
      cases piece with
      | nil => exact absurd hs (hleft.not_startsBare _)
      | cons c piece => simpa [StartsBare] using hs

theorem Pieces.join_ne_nil {s : List Char} {pieces : List (List Char)}
    (h : Pieces word s pieces) (hs : s ≠ []) : joinChars (spaced word) pieces ≠ [] := by
  cases h with
  | last _ => exact hs
  | cons _ _ _ _ hrest =>
      rw [joinChars_spaced_cons hrest]
      simp

theorem Pieces.endsBare_join {s : List Char} {pieces : List (List Char)}
    (h : Pieces word s pieces) (hs : EndsBare s) :
    EndsBare (joinChars (spaced word) pieces) := by
  induction h with
  | last _ => exact hs
  | @cons piece left right rest pieces hpiece hleft hright hstart hrest ih =>
      have hend := hs.of_operator
      have hne := hright.ne_nil_of_endsBare hend
      rw [joinChars_spaced_cons hrest]
      simp only [← List.append_assoc]
      exact (ih hend.of_append).prepend (hrest.join_ne_nil hne) _

/-- Pieces that are written with the word and single blanks between them are read again as they
are. -/
theorem Pieces.join {s : List Char} {pieces : List (List Char)} (h : Pieces word s pieces) :
    Pieces word (joinChars (spaced word) pieces) pieces := by
  induction h with
  | last h => exact Pieces.last h
  | cons hpiece hleft hright hstart hrest ih =>
      rw [joinChars_spaced_cons hrest]
      exact Pieces.cons hpiece BlankRun.space BlankRun.space (hrest.startsBare_join hstart) ih

end ItemSearch.Text
