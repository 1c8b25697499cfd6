import ItemSearch.Text.Lower

/-!
What lower case leaves alone. A character that belongs to no case is not made out of another one,
so it is in a text in lower case just where it is in the text. What lower case makes it does not
change again, so lower case of lower case is the same text.
-/

namespace ItemSearch.Text

/-! ### Runs of capital letters -/

/-- The code point is that of a capital letter of the run. -/
def InRun (run : Nat × Nat × Nat × Int) (n : Nat) : Prop :=
  run.1 ≤ n ∧ n ≤ run.2.1 ∧ (n - run.1) % run.2.2.1 = 0

/-- The code point of the small letter. -/
def smallOf (run : Nat × Nat × Nat × Int) (n : Nat) : Nat := (n + run.2.2.2).toNat

/-- All characters that are changed: those of ASCII, the capital `I` with a dot, and the runs. -/
def changedRuns : List (Nat × Nat × Nat × Int) :=
  (0x41, 0x5A, 1, 32) :: (0x130, 0x130, 1, 0) :: capitalRuns

/-- Nothing is changed into a character of the other run: the small letters are apart from it, or
they alternate with it. -/
def areApart (run other : Nat × Nat × Nat × Int) : Bool :=
  (smallOf run run.2.1).blt other.1 || other.2.1.blt (smallOf run run.1) ||
    (other.2.2.1.beq 2 && (run.2.2.1.beq 2 || run.1.beq run.2.1) &&
      ((smallOf run run.1 + other.1) % 2).beq 1)

theorem all_apart : (capitalRuns.all fun run => changedRuns.all (areApart run)) = true := by
  decide +kernel

theorem run_of_mem : ∀ run ∈ capitalRuns,
    0x80 ≤ run.1 ∧ (run.2.2.1 = 1 ∨ run.2.2.1 = 2) ∧ 0 ≤ (run.1 : Int) + run.2.2.2 := by
  decide +kernel

theorem not_inRun_smallOf {run other : Nat × Nat × Nat × Int} {n : Nat} (hrun : run ∈ capitalRuns)
    (hother : other ∈ changedRuns) (h : InRun run n) : ¬ InRun other (smallOf run n) := by
  have hapart := List.all_eq_true.mp (List.all_eq_true.mp all_apart run hrun) other hother
  obtain ⟨-, hstep, hpos⟩ := run_of_mem run hrun
  obtain ⟨first, last, step, shift⟩ := run
  obtain ⟨first', last', step', shift'⟩ := other
  simp only [areApart, smallOf, Bool.or_eq_true, Bool.and_eq_true, Nat.blt_eq, Nat.beq_eq] at hapart
  simp only [InRun, smallOf] at h hstep hpos ⊢
  rcases hapart with (hbelow | habove) | ⟨⟨rfl, hsame⟩, hodd⟩
  · omega
  · omega
  · -- the small letters lie at odd distances from the run, whose letters lie at even ones
    rcases hstep with rfl | rfl <;> omega

theorem lowerChar_cases (c : Char) :
    (c.toNat < 0x80 ∧ lowerChar c = c.toLower) ∨
    (0x80 ≤ c.toNat ∧ (∀ run ∈ capitalRuns, ¬ InRun run c.toNat) ∧ lowerChar c = c) ∨
    ∃ run ∈ capitalRuns, InRun run c.toNat ∧ lowerChar c = Char.ofNat (smallOf run c.toNat) := by
  by_cases hascii : c.toNat < 0x80
  · exact Or.inl ⟨hascii, if_pos hascii⟩
  · refine Or.inr ?_
    rw [lowerChar, if_neg hascii, lowerShift]
    split
    · next first last step shift hfind =>
        have hrun : InRun (first, last, step, shift) c.toNat := by
          simpa [InRun, and_assoc] using List.find?_some hfind
        exact Or.inr ⟨_, List.mem_of_find?_eq_some hfind, hrun, rfl⟩
    · next hnone =>
        rw [List.find?_eq_none] at hnone
        refine Or.inl ⟨by omega, fun run hrun => ?_, by simp⟩
        simpa [InRun, and_assoc] using hnone run hrun

/-! ### What has been made small -/

/-- The character is not one of those that lower case changes. -/
def IsSmall (c : Char) : Prop := ∀ run ∈ changedRuns, ¬ InRun run c.toNat

theorem isSmall_of_ascii {c : Char} (h : c.toNat < 0x80)
    (hcapital : ¬ (0x41 ≤ c.toNat ∧ c.toNat ≤ 0x5A)) : IsSmall c := by
  have hruns : ∀ run ∈ capitalRuns, ¬ InRun run c.toNat := by
    rintro run hrun ⟨hfirst, -⟩
    have hlarge := (run_of_mem run hrun).1
    omega
  refine List.forall_mem_cons.mpr ⟨?_, List.forall_mem_cons.mpr ⟨?_, hruns⟩⟩
  · exact fun hin => hcapital ⟨hin.1, hin.2.1⟩
  · rintro ⟨hfirst, -⟩
    simp only at hfirst
    omega

theorem toLower_ascii : ∀ n < 0x80, (Char.ofNat n).toLower.toNat < 0x80 ∧
    ¬ (0x41 ≤ (Char.ofNat n).toLower.toNat ∧ (Char.ofNat n).toLower.toNat ≤ 0x5A) := by
  decide

theorem toLower_of_not_capital {c : Char} (h : ¬ (0x41 ≤ c.toNat ∧ c.toNat ≤ 0x5A)) :
    c.toLower = c :=
  dif_neg h

theorem toNat_ofNat {n : Nat} (h : n.isValidChar) : (Char.ofNat n).toNat = n := by
  rw [Char.ofNat, dif_pos h]
  rfl

theorem isSmall_lowerChar {c : Char} (hc : c ≠ '\u0130') : IsSmall (lowerChar c) := by
  rcases lowerChar_cases c with
    ⟨hascii, hlower⟩ | ⟨hlarge, hruns, hlower⟩ | ⟨run, hrun, hin, hlower⟩
  · rw [hlower]
    obtain ⟨hsmall, hcapital⟩ := toLower_ascii c.toNat hascii
    rw [Char.ofNat_toNat] at hsmall hcapital
    exact isSmall_of_ascii hsmall hcapital
  · rw [hlower]
    refine List.forall_mem_cons.mpr ⟨?_, List.forall_mem_cons.mpr ⟨?_, hruns⟩⟩
    · rintro ⟨-, hlast, -⟩
      simp only at hlast
      omega
    · rintro ⟨hfirst, hlast, -⟩
      simp only at hfirst hlast
      have hcode : c.toNat = 0x130 := by omega
      apply hc
      rw [← Char.ofNat_toNat c, hcode]
  · rw [hlower]
    by_cases hvalid : (smallOf run c.toNat).isValidChar
    · intro other hother
      rw [toNat_ofNat hvalid]
      exact not_inRun_smallOf hrun hother hin
    · -- what is no character becomes the one with the code point zero
      rw [Char.ofNat, dif_neg hvalid]
      exact isSmall_of_ascii (by decide) (by decide)

theorem IsSmall.lowerChar_eq {c : Char} (h : IsSmall c) : lowerChar c = c := by
  obtain ⟨hcapital, hrest⟩ := List.forall_mem_cons.mp h
  obtain ⟨-, hruns⟩ := List.forall_mem_cons.mp hrest
  rcases lowerChar_cases c with ⟨-, hlower⟩ | ⟨-, -, hlower⟩ | ⟨run, hrun, hin, -⟩
  · rw [hlower, toLower_of_not_capital]
    rintro ⟨hfirst, hlast⟩
    exact hcapital ⟨hfirst, hlast, Nat.mod_one _⟩
  · exact hlower
  · exact absurd hin (hruns run hrun)

theorem IsSmall.ne_dotted {c : Char} (h : IsSmall c) : c ≠ '\u0130' := by
  rintro rfl
  exact h (0x130, 0x130, 1, 0) (by simp [changedRuns]) ⟨by decide, by decide, by decide⟩

theorem isSmall_of_lowerChar_eq {c : Char} (h : lowerChar c = c) (hc : c ≠ '\u0130') :
    IsSmall c :=
  h ▸ isSmall_lowerChar hc

theorem isSmall_of_mem_lowerFrom {before : Bool} {s : List Char} :
    ∀ c ∈ lowerFrom before s, IsSmall c := by
  induction s generalizing before with
  | nil => simp [lowerFrom]
  | cons c rest ih =>
      rw [lowerFrom, List.forall_mem_append]
      refine ⟨?_, ih⟩
      split
      · -- the dot of the capital letter becomes a character of its own
        refine List.forall_mem_cons.mpr ⟨?_, List.forall_mem_singleton.mpr ?_⟩
        · exact isSmall_of_ascii (by decide) (by decide)
        · exact isSmall_of_lowerChar_eq (by decide +kernel) (by decide)
      · next hdotted =>
          split
          · exact List.forall_mem_singleton.mpr
              (isSmall_of_lowerChar_eq (by decide +kernel) (by decide))
          · exact List.forall_mem_singleton.mpr (isSmall_lowerChar hdotted)

theorem lowerFrom_eq_self {before : Bool} {s : List Char} (h : ∀ c ∈ s, IsSmall c) :
    lowerFrom before s = s := by
  induction s generalizing before with
  | nil => rfl
  | cons c rest ih =>
      rw [List.forall_mem_cons] at h
      have hsigma : c ≠ '\u03a3' := by
        rintro rfl
        exact absurd h.1.lowerChar_eq (by decide +kernel)
      simp [lowerFrom, h.1.ne_dotted, hsigma, h.1.lowerChar_eq, ih h.2]

theorem lowerFrom_lowerFrom (before again : Bool) (s : List Char) :
    lowerFrom again (lowerFrom before s) = lowerFrom before s :=
  lowerFrom_eq_self isSmall_of_mem_lowerFrom

/-! ### What belongs to no case -/

/-- Whether a character has a small letter, or is the small letter of another one. -/
def hasOtherCase (c : Char) : Bool :=
  lowerChar c ≠ c || ('a' ≤ c && c ≤ 'z') ||
    capitalRuns.any fun (first, last, step, shift) =>
      let origin := (c.toNat : Int) - shift
      first ≤ origin && origin ≤ last && (origin - first) % step = 0

/-- The character has no other case, and lower case makes it of no other. -/
structure IsCaseless (d : Char) : Prop where
  alone : hasOtherCase d = false
  not_made : d ∉ ['\x00', '\u0130', '\u0307', '\u03c2']

theorem toLower_capital : ∀ n < 0x80, 0x41 ≤ n ∧ n ≤ 0x5A →
    ('a' ≤ (Char.ofNat n).toLower && (Char.ofNat n).toLower ≤ 'z') = true := by
  decide

theorem lowerChar_eq_iff {c d : Char} (hd : IsCaseless d) : lowerChar c = d ↔ c = d := by
  have halone := hd.alone
  simp only [hasOtherCase, Bool.or_eq_false_iff, decide_eq_false_iff_not, ne_eq,
    Decidable.not_not] at halone
  obtain ⟨⟨hself, hletter⟩, hruns⟩ := halone
  constructor
  · intro h
    rcases lowerChar_cases c with ⟨hascii, hlower⟩ | ⟨-, -, hlower⟩ | ⟨run, hrun, hin, hlower⟩
    · by_cases hcapital : 0x41 ≤ c.toNat ∧ c.toNat ≤ 0x5A
      · have hsmall := toLower_capital c.toNat hascii hcapital
        rw [Char.ofNat_toNat, ← hlower, h, hletter] at hsmall
        exact absurd hsmall (by simp)
      · rw [← h, hlower, toLower_of_not_capital hcapital]
    · rw [← h, hlower]
    · -- the small letter would lead back to its capital letter
      have hnull : d ≠ '\x00' := List.ne_of_not_mem_cons hd.not_made
      rw [hlower] at h
      by_cases hvalid : (smallOf run c.toNat).isValidChar
      · have hcode : d.toNat = smallOf run c.toNat := by rw [← h, toNat_ofNat hvalid]
        have hpositive : d.toNat ≠ 0 := by
          intro hzero
          apply hnull
          rw [← Char.ofNat_toNat d, hzero]
        have hback := List.any_eq_false.mp hruns run hrun
        obtain ⟨-, hstep, -⟩ := run_of_mem run hrun
        obtain ⟨first, last, step, shift⟩ := run
        simp only [InRun, smallOf] at hin hcode hstep
        simp only [Bool.and_eq_true, decide_eq_true_eq] at hback
        rcases hstep with rfl | rfl <;> omega
      · rw [Char.ofNat, dif_neg hvalid] at h
        exact absurd h.symm hnull
  · rintro rfl
    exact hself

theorem IsCaseless.ne_of_hasOtherCase {c d : Char} (hd : IsCaseless d)
    (hc : hasOtherCase c = true) : d ≠ c := by
  rintro rfl
  rw [hd.alone] at hc
  exact Bool.noConfusion hc

/-- What belongs to no case is in a text in lower case just where it is in the text. -/
theorem mem_lowerFrom_iff {before : Bool} {s : List Char} {d : Char} (hd : IsCaseless d) :
    d ∈ lowerFrom before s ↔ d ∈ s := by
  have hmade := hd.not_made
  simp only [List.mem_cons, List.not_mem_nil, or_false, not_or] at hmade
  obtain ⟨-, hdotted, hdot, hfinal⟩ := hmade
  have hi : d ≠ 'i' := hd.ne_of_hasOtherCase (by decide)
  have hsigma : d ≠ '\u03a3' := hd.ne_of_hasOtherCase (by decide +kernel)
  induction s generalizing before with
  | nil => simp [lowerFrom]
  | cons c rest ih =>
      have hrest : ∀ b, d ∈ lowerFrom b rest ↔ d ∈ rest := fun _ => ih
      rw [lowerFrom, List.mem_append, List.mem_cons, hrest]
      apply or_congr_left
      split
      · next hc => simp [hc, hi, hdot, hdotted]
      · split
        · next hc =>
            simp only [Bool.and_eq_true, decide_eq_true_eq] at hc
            simp [hc.1.1, hfinal, hsigma]
        · rw [List.mem_singleton, eq_comm, lowerChar_eq_iff hd, eq_comm]

end ItemSearch.Text
