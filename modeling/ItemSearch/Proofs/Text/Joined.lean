import ItemSearch.Proofs.Text.Operator
import Mathlib.Data.List.Forall2

/-!
Texts that are written out of pieces, with a word between blanks from piece to piece, and when
splitting at the word finds the pieces again. The words of a text are what stands between its
blanks. A word that splits a text is one of its words, so a piece that does not have it among its
words is left whole. What is joined by another word does not get it among its words either, which
is how joining by two words, one inside the other, is taken apart.
-/

namespace ItemSearch.Text

/-- What stands between the blanks of a text, with nothing where two blanks meet. -/
def words (s : List Char) : List (List Char) := s.splitOnP isBlank

/-- The pieces one after the other, with the word between blanks from each to the next. -/
inductive Joined (word : List Char) : List Char → List (List Char) → Prop where
  | one (piece : List Char) : Joined word piece [piece]
  | cons (piece : List Char) {left right rest : List Char} {pieces : List (List Char)}
      (hleft : BlankRun left) (hright : BlankRun right) (hrest : Joined word rest pieces) :
      Joined word (piece ++ (left ++ (word ++ (right ++ rest)))) (piece :: pieces)

/-- A text that is not empty and has no blanks at its ends. -/
structure Solid (s : List Char) : Prop where
  ne_nil : s ≠ []
  startsBare : StartsBare s
  endsBare : EndsBare s

variable {word : List Char}

/-! ### The words of a text -/

theorem words_append_blank {b : Char} (hb : isBlank b = true) (s t : List Char) :
    words (s ++ b :: t) = words s ++ words t :=
  List.splitOnP_append_cons s t hb

theorem Bare.words_eq (hword : Bare word) : words word = [word] :=
  List.splitOnP_eq_singleton hword.not_blank

theorem Bare.not_mem_words_nil (hword : Bare word) : word ∉ words [] := by
  simpa [words] using hword.ne_nil

theorem mem_words_blanks_append_iff (hword : Bare word) {run : List Char}
    (hrun : ∀ c ∈ run, isBlank c = true) {s : List Char} :
    word ∈ words (run ++ s) ↔ word ∈ words s := by
  induction run with
  | nil => rfl
  | cons b run ih =>
      rw [List.forall_mem_cons] at hrun
      have hsplit : words (b :: (run ++ s)) = words [] ++ words (run ++ s) :=
        words_append_blank hrun.1 [] (run ++ s)
      rw [List.cons_append, hsplit, List.mem_append, ih hrun.2]
      simp only [hword.not_mem_words_nil, false_or]

/-- Blanks between two texts keep the words of the one apart from those of the other. -/
theorem mem_words_append_run_iff (hword : Bare word) {run : List Char} (hrun : BlankRun run)
    {s t : List Char} : word ∈ words (s ++ (run ++ t)) ↔ word ∈ words s ∨ word ∈ words t := by
  obtain ⟨b, rest, hb, rfl⟩ := hrun.exists_first
  have hrest : ∀ c ∈ rest, isBlank c = true :=
    fun c hc => hrun.blank c (List.mem_cons_of_mem b hc)
  rw [List.cons_append, words_append_blank hb, List.mem_append,
    mem_words_blanks_append_iff hword hrest]

/-- A word is one of the words of a text where it stands in it with nothing or a blank on either
side. -/
theorem mem_words_iff (hword : Bare word) {s : List Char} :
    word ∈ words s ↔ ∃ before after, s = before ++ (word ++ after) ∧
      (∀ a ∈ before.getLast?, isBlank a = true) ∧ ∀ b ∈ after.head?, isBlank b = true := by
  constructor
  · intro h
    induction hn : s.length using Nat.strongRecOn generalizing s with
    | ind n ih =>
        by_cases hblank : ∃ b ∈ s, isBlank b = true
        · obtain ⟨b, hb, hblank⟩ := hblank
          obtain ⟨first, second, rfl⟩ := List.append_of_mem hb
          rw [List.length_append, List.length_cons] at hn
          rw [words_append_blank hblank, List.mem_append] at h
          rcases h with h | h
          · obtain ⟨before, after, rfl, hbefore, hafter⟩ := ih first.length (by omega) h rfl
            refine ⟨before, after ++ b :: second, by simp, hbefore, ?_⟩
            cases after with
            | nil => simpa using hblank
            | cons c after => exact hafter
          · obtain ⟨before, after, rfl, hbefore, hafter⟩ := ih second.length (by omega) h rfl
            refine ⟨first ++ b :: before, after, by simp, ?_, hafter⟩
            cases before with
            | nil => simpa using hblank
            | cons c before => simpa [List.getLast?_cons_cons] using hbefore
        · have hone : words s = [s] := List.splitOnP_eq_singleton fun c hc =>
            Bool.eq_false_iff.mpr fun hc' => hblank ⟨c, hc, hc'⟩
          rw [hone, List.mem_singleton] at h
          exact ⟨[], [], by simp [h], by simp, by simp⟩
  · rintro ⟨before, after, rfl, hbefore, hafter⟩
    have hright : word ∈ words (word ++ after) := by
      cases after with
      | nil => simp [hword.words_eq]
      | cons b rest =>
          rw [words_append_blank (hafter b rfl), hword.words_eq]
          simp
    rcases List.eq_nil_or_concat before with rfl | ⟨init, a, rfl⟩
    · exact hright
    · rw [List.concat_eq_append, List.append_assoc, List.singleton_append,
        words_append_blank (hbefore a (by simp)), List.mem_append]
      exact Or.inr hright

/-- A word that stands between blanks is one of the words. -/
theorem HasOperator.mem_words (hword : Bare word) {s : List Char} (h : HasOperator word s) :
    word ∈ words s := by
  obtain ⟨before, a, b, after, ha, hb, rfl⟩ := h
  exact (mem_words_iff hword).mpr
    ⟨before ++ [a], b :: after, by simp, by simpa using ha, by simpa using hb⟩

theorem solid_of_trimChars_eq {s : List Char} (h : trimChars s = s) (hne : s ≠ []) : Solid s :=
  ⟨hne, h ▸ startsBare_trimChars s, h ▸ endsBare_trimChars s⟩

theorem Solid.trimChars_eq {s before after : List Char} (h : Solid s)
    (hbefore : ∀ c ∈ before, isBlank c = true) (hafter : ∀ c ∈ after, isBlank c = true) :
    trimChars (before ++ (s ++ after)) = s := by
  have hstart : StartsBare (s ++ after) := by
    obtain ⟨c, cs, rfl⟩ := List.exists_cons_of_ne_nil h.ne_nil
    exact h.startsBare
  have hend : StartsBare s.reverse := endsBare_iff_reverse.mp h.endsBare
  have hreverse : ∀ c ∈ after.reverse, isBlank c = true := by simpa using hafter
  rw [trimChars, dropRight, dropWhile_append_of_blank hbefore hstart, List.reverse_append,
    dropWhile_append_of_blank hreverse hend, List.reverse_reverse]

/-! ### Where pieces end -/

/-- The text ends with the word behind a blank. -/
def EndsInWord (word s : List Char) : Prop :=
  ∃ before a, isBlank a = true ∧ s = before ++ a :: word

theorem hasOperator_append_space_iff {s : List Char} :
    HasOperator word (s ++ [' ']) ↔ HasOperator word s ∨ EndsInWord word s := by
  constructor
  · rintro ⟨before, a, b, after, ha, hb, h⟩
    rcases List.eq_nil_or_concat after with rfl | ⟨init, last, rfl⟩
    · have hcut : s ++ [' '] = (before ++ a :: word) ++ [b] := by simp [h]
      exact Or.inr ⟨before, a, ha, (List.append_singleton_inj.mp hcut).1⟩
    · have hcut : s ++ [' '] = (before ++ a :: (word ++ b :: init)) ++ [last] := by simp [h]
      exact Or.inl ⟨before, a, b, init, ha, hb, (List.append_singleton_inj.mp hcut).1⟩
  · rintro (h | ⟨before, a, ha, rfl⟩)
    · exact h.append [' ']
    · exact ⟨before, a, ' ', [], ha, isBlank_space, by simp⟩

theorem closed_iff {s : List Char} :
    Closed word s ↔ EndsBare s ∧ ¬ HasOperator word s ∧ ¬ EndsInWord word s := by
  rw [← not_or, ← hasOperator_append_space_iff]
  exact ⟨fun h => ⟨h.endsBare, h.noOperator⟩, fun h => ⟨h.1, h.2⟩⟩

theorem EndsInWord.prepend {s : List Char} (h : EndsInWord word s) (t : List Char) :
    EndsInWord word (t ++ s) := by
  obtain ⟨before, a, ha, rfl⟩ := h
  exact ⟨t ++ before, a, ha, by simp⟩

theorem EndsInWord.mem_words (hword : Bare word) {s : List Char} (h : EndsInWord word s) :
    word ∈ words s := by
  obtain ⟨before, a, ha, rfl⟩ := h
  exact (mem_words_iff hword).mpr ⟨before ++ [a], [], by simp, by simpa using ha, by simp⟩

namespace Pieces

variable {s : List Char} {pieces : List (List Char)}

/-- The pieces of two texts with an operator between them are those of the one and then those of
the other. -/
theorem append {t left right : List Char} {others : List (List Char)} (hs : Pieces word s pieces)
    (hend : EndsBare s) (hword : ¬ EndsInWord word s) (hleft : BlankRun left)
    (hright : BlankRun right) (hstart : StartsBare t) (ht : Pieces word t others) :
    Pieces word (s ++ (left ++ (word ++ (right ++ t)))) (pieces ++ others) := by
  induction hs with
  | last hop => exact .cons (closed_iff.mpr ⟨hend, hop, hword⟩) hleft hright hstart ht
  | @cons piece l r rest pieces hpiece hl hr hrest _ ih =>
      have hend' := hend.of_operator
      obtain ⟨c, cs, rfl⟩ := List.exists_cons_of_ne_nil (hr.ne_nil_of_endsBare hend')
      have hword' : ¬ EndsInWord word (c :: cs) := by
        intro h
        apply hword
        simpa using h.prepend (piece ++ (l ++ (word ++ r)))
      have htail := ih hend'.of_append hword'
      simpa using Pieces.cons hpiece hl hr (by simpa [StartsBare] using hrest) htail

/-- The first piece of a text that begins with a visible character is all of it, or what stands in
front of some blank. -/
theorem exists_first {c : Char} (h : Pieces word (c :: s) pieces) (hc : isBlank c = false) :
    ∃ first rest, pieces = (c :: first) :: rest ∧
      ((first = s ∧ ¬ HasOperator word (c :: s)) ∨
        ∃ b more, isBlank b = true ∧ s = first ++ b :: more) := by
  generalize hcs : c :: s = cs at h
  cases h with
  | last hop =>
      subst hcs
      exact ⟨s, [], rfl, Or.inl ⟨rfl, hop⟩⟩
  | @cons piece left right rest pieces _ hleft _ _ _ =>
      obtain ⟨b, run, hb, rfl⟩ := hleft.exists_first
      cases piece with
      | nil =>
          obtain rfl : c = b := (List.cons.inj hcs).1
          rw [hb] at hc
          exact absurd hc (by simp)
      | cons d first =>
          obtain ⟨rfl, rfl⟩ := List.cons.inj hcs
          exact ⟨first, pieces, rfl, Or.inr ⟨b, _, hb, rfl⟩⟩

theorem subset (h : Pieces word s pieces) : ∀ piece ∈ pieces, piece ⊆ s := by
  induction h with
  | last => simp
  | cons _ _ _ _ _ ih =>
      rw [List.forall_mem_cons]
      refine ⟨by simp, fun p hp => List.Subset.trans (ih p hp) ?_⟩
      intro c hc
      simp [hc]

/-- What stands between the occurrences of a word is split by it no further. -/
theorem not_hasOperator (h : Pieces word s pieces) :
    ∀ piece ∈ pieces, ¬ HasOperator word piece := by
  induction h with
  | last h => simpa using h
  | cons hpiece _ _ _ _ ih =>
      exact List.forall_mem_cons.mpr ⟨(closed_iff.mp hpiece).2.1, ih⟩

/-- Nothing of a text without blanks at its ends is split into empty pieces. -/
theorem solid_of_mem (h : Pieces word s pieces) (hs : Solid s) :
    ∀ piece ∈ pieces, Solid piece := by
  induction h with
  | last _ => simpa using hs
  | @cons piece left right rest pieces hpiece hleft hright hstart _ ih =>
      have hend := hs.endsBare.of_operator
      have hrest : Solid rest := ⟨hright.ne_nil_of_endsBare hend, hstart, hend.of_append⟩
      refine List.forall_mem_cons.mpr ⟨?_, ih hrest⟩
      cases piece with
      -- the text would begin with the blanks in front of the word
      | nil => exact absurd hs.startsBare (hleft.not_startsBare _)
      | cons c piece =>
          exact ⟨List.cons_ne_nil c piece, by simpa [StartsBare] using hs.startsBare,
            hpiece.endsBare⟩

theorem eq_of_singleton {piece : List Char} (h : Pieces word s [piece]) : piece = s := by
  cases h with
  | last => rfl
  | cons _ _ _ _ hrest => exact absurd rfl hrest.ne_nil

end Pieces

theorem not_hasOperator_iff (hword : Bare word) {s : List Char} :
    ¬ HasOperator word s ↔ splitWordChars word s = [s] := by
  constructor
  · exact splitWordChars_of_not_hasOperator hword
  · intro h
    exact ((splitWordChars_eq_iff hword).mp h).not_hasOperator s (List.mem_singleton_self s)

/-! ### What has been joined -/

namespace Joined

variable {s : List Char} {pieces : List (List Char)}

theorem ne_nil (h : Joined word s pieces) : pieces ≠ [] := by
  cases h <;> simp

theorem solid (h : Joined word s pieces) (hpieces : ∀ piece ∈ pieces, Solid piece) : Solid s := by
  induction h with
  | one piece => exact hpieces piece (List.mem_singleton_self piece)
  | @cons piece left right rest pieces _ _ _ ih =>
      rw [List.forall_mem_cons] at hpieces
      have hpiece := hpieces.1
      have hrest := ih hpieces.2
      have hend := hrest.endsBare.prepend hrest.ne_nil (piece ++ (left ++ (word ++ right)))
      refine ⟨by simp [hpiece.ne_nil], ?_, by simpa using hend⟩
      obtain ⟨c, cs, rfl⟩ := List.exists_cons_of_ne_nil hpiece.ne_nil
      simpa [StartsBare] using hpiece.startsBare

/-- The words of what is joined are those of the pieces, and the one that joins them. -/
theorem not_mem_words {other : List Char} (hword : Bare word) (hother : Bare other)
    (hne : other ≠ word) (h : Joined word s pieces)
    (hpieces : ∀ piece ∈ pieces, other ∉ words piece) : other ∉ words s := by
  induction h with
  | one piece => exact hpieces piece (List.mem_singleton_self piece)
  | cons piece hleft hright _ ih =>
      rw [List.forall_mem_cons] at hpieces
      have hjoining : other ∉ words word := by simpa [hword.words_eq] using hne
      rw [mem_words_append_run_iff hother hleft, mem_words_append_run_iff hother hright]
      simp only [hpieces.1, hjoining, ih hpieces.2, or_self, not_false_eq_true]

theorem not_mem {c : Char} (hc : isBlank c = false) (hword : c ∉ word) (h : Joined word s pieces)
    (hpieces : ∀ piece ∈ pieces, c ∉ piece) : c ∉ s := by
  induction h with
  | one piece => exact hpieces piece (List.mem_singleton_self piece)
  | @cons piece left right rest pieces hleft hright _ ih =>
      rw [List.forall_mem_cons] at hpieces
      have hrun : ∀ run, BlankRun run → c ∉ run := by
        intro run hblank hmem
        rw [hblank.blank c hmem] at hc
        exact absurd hc (by simp)
      have hl := hrun left hleft
      have hr := hrun right hright
      simp only [List.mem_append, hpieces.1, hl, hword, hr, ih hpieces.2, or_self,
        not_false_eq_true]

/-- Splitting at the word that pieces have been joined by finds the pieces, as long as it stands
between blanks in none of them and only the last may end with it behind a blank. -/
theorem toPieces_of_closed (h : Joined word s pieces) (hsolid : ∀ piece ∈ pieces, Solid piece)
    (hop : ∀ piece ∈ pieces, ¬ HasOperator word piece)
    (hend : ∀ piece ∈ pieces.dropLast, ¬ EndsInWord word piece) : Pieces word s pieces := by
  induction h with
  | one piece => exact .last (hop piece (List.mem_singleton_self piece))
  | cons piece hleft hright hrest ih =>
      rw [List.forall_mem_cons] at hsolid hop
      have hne := hrest.ne_nil
      rw [List.dropLast_cons_of_ne_nil hne, List.forall_mem_cons] at hend
      have hclosed := closed_iff.mpr ⟨hsolid.1.endsBare, hop.1, hend.1⟩
      have hstart := (hrest.solid hsolid.2).startsBare
      exact .cons hclosed hleft hright hstart (ih hsolid.2 hop.2 hend.2)

/-- Splitting at the word finds pieces that do not have it among their words. -/
theorem toPieces (hword : Bare word) (h : Joined word s pieces)
    (hsolid : ∀ piece ∈ pieces, Solid piece) (hpieces : ∀ piece ∈ pieces, word ∉ words piece) :
    Pieces word s pieces := by
  apply h.toPieces_of_closed hsolid
  · exact fun piece hmem hop => hpieces piece hmem (hop.mem_words hword)
  · exact fun piece hmem hend => hpieces piece ((List.dropLast_sublist pieces).subset hmem)
      (hend.mem_words hword)

/-- What is put in front goes into the first piece. -/
theorem prepend {piece : List Char} (h : Joined word s (piece :: pieces)) (start : List Char) :
    Joined word (start ++ s) ((start ++ piece) :: pieces) := by
  cases h with
  | one => exact .one _
  | cons _ hleft hright hrest =>
      rw [← List.append_assoc]
      exact .cons _ hleft hright hrest

/-! ### Joined by one word inside another -/

variable {outer inner : List Char} {texts : List (List Char)}
  {groups : List (List (List Char))}

/-- What each text gets from the pieces of its group, all of them get from all pieces. -/
theorem forall_mem_of_groups {P Q : List Char → Prop}
    (hgroups : List.Forall₂ (Joined inner) texts groups)
    (htext : ∀ {text group}, Joined inner text group → (∀ piece ∈ group, Q piece) → P text)
    (hpieces : ∀ piece ∈ groups.flatten, Q piece) : ∀ text ∈ texts, P text := by
  induction hgroups with
  | nil => simp
  | cons hgroup _ ih =>
      rw [List.flatten_cons, List.forall_mem_append] at hpieces
      exact List.forall_mem_cons.mpr ⟨htext hgroup hpieces.1, ih hpieces.2⟩

theorem flatMap_splitWordChars_of_groups (hinner : Bare inner)
    (hgroups : List.Forall₂ (Joined inner) texts groups)
    (hsolid : ∀ piece ∈ groups.flatten, Solid piece)
    (hinners : ∀ piece ∈ groups.flatten, inner ∉ words piece) :
    texts.flatMap (splitWordChars inner) = groups.flatten := by
  induction hgroups with
  | nil => rfl
  | cons hgroup _ ih =>
      rw [List.flatten_cons, List.forall_mem_append] at hsolid hinners
      have hpieces := hgroup.toPieces hinner hsolid.1 hinners.1
      rw [List.flatMap_cons, hpieces.splitWordChars_eq hinner, ih hsolid.2 hinners.2,
        List.flatten_cons]

/-- The pieces are found again by splitting at the outer word and then at the inner one. -/
theorem split_groups (houter : Bare outer) (hinner : Bare inner) (hne : outer ≠ inner)
    (h : Joined outer s texts) (hgroups : List.Forall₂ (Joined inner) texts groups)
    (hsolid : ∀ piece ∈ groups.flatten, Solid piece)
    (houters : ∀ piece ∈ groups.flatten, outer ∉ words piece)
    (hinners : ∀ piece ∈ groups.flatten, inner ∉ words piece) :
    (splitWordChars outer s).flatMap (splitWordChars inner) = groups.flatten := by
  have htexts := forall_mem_of_groups hgroups solid hsolid
  have hwords := forall_mem_of_groups hgroups (not_mem_words hinner houter hne) houters
  rw [(h.toPieces houter htexts hwords).splitWordChars_eq houter,
    flatMap_splitWordChars_of_groups hinner hgroups hsolid hinners]

end Joined

end ItemSearch.Text
