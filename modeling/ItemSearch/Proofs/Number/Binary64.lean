import ItemSearch.Number.Binary64
import Mathlib.Algebra.Group.Nat.Defs

/-!
Integers as floating-point numbers. An integer is taken for the number nearest to it. That is the
integer itself where 53 binary digits are enough for it, with any number of zeros behind them.
-/

namespace ItemSearch.Binary64

/-- Up to zeros at the end, the integer has 53 binary digits at most. -/
def CanBeHeld (n : Int) : Prop := ∃ m k, m < 2 ^ 53 ∧ n.natAbs = m * 2 ^ k

theorem leadingBit_eq : leadingBit = 2 ^ 52 := by decide

theorem twoTo_eq (k : Nat) : twoTo k = 2 ^ k := rfl

theorem divNearest_of_dvd {num den : Nat} (hden : 0 < den) (h : den ∣ num) :
    divNearest num den = num / den := by
  simp [divNearest, Nat.mod_eq_zero_of_dvd h, hden]

variable {N num den : Nat} {e : Int} {negative : Bool}

/-- The guess at the exponent is right where the quotient has a bit at the leading place. -/
theorem exponentFor_of_leadingBit_le (he : (N.log2 : Int) - 52 = e)
    (hscale : scaleDown N 1 e = (num, den)) (hleast : leastExponent ≤ e)
    (hlead : leadingBit ≤ num / den) : exponentFor N 1 = e := by
  have hone : Nat.log2 1 = 0 := by decide
  have hguess : (N.log2 : Int) - Nat.log2 1 - 52 = e := by rw [hone]; omega
  simp only [exponentFor, hguess, hscale]
  rw [if_neg (Nat.not_lt.mpr hlead), Int.max_eq_right hleast]

/-- A quotient that is an integer of 53 digits is kept. -/
theorem ofRatio?_of_dvd (hN : N ≠ 0) (he : exponentFor N 1 = e)
    (hscale : scaleDown N 1 e = (num, den)) (hden : 0 < den) (hdvd : den ∣ num)
    (hlt : num / den < 2 * leadingBit) :
    ofRatio? negative N 1 =
      if greatestExponent < e then none else some ⟨negative, num / den, e⟩ := by
  simp only [ofRatio?, if_neg hN, he, hscale, divNearest_of_dvd hden hdvd,
    if_neg (Nat.ne_of_lt hlt)]

/-- An integer of 53 digits or more, and zeros behind the first 53. -/
theorem ofRatio?_of_le_log2 {g : Nat} (hN : N ≠ 0) (hg : N.log2 = 52 + g) (hdvd : 2 ^ g ∣ N) :
    ofRatio? negative N 1 =
      if greatestExponent < g then none else some ⟨negative, N / 2 ^ g, g⟩ := by
  have hscale : scaleDown N 1 g = (N, 2 ^ g) := by
    simp [scaleDown, twoTo_eq]
  have hpow : 2 ^ N.log2 = leadingBit * 2 ^ g := by rw [hg, Nat.pow_add, leadingBit_eq]
  have hlead : leadingBit ≤ N / 2 ^ g := by
    rw [Nat.le_div_iff_mul_le (Nat.two_pow_pos g), ← hpow]
    exact Nat.log2_self_le hN
  have hlt : N / 2 ^ g < 2 * leadingBit := by
    rw [Nat.div_lt_iff_lt_mul (Nat.two_pow_pos g), Nat.mul_assoc, ← hpow, ← Nat.pow_succ']
    exact Nat.lt_log2_self
  have hexponent : exponentFor N 1 = g :=
    exponentFor_of_leadingBit_le (by omega) hscale (by simp only [leastExponent]; omega) hlead
  exact ofRatio?_of_dvd hN hexponent hscale (Nat.two_pow_pos g) hdvd hlt

/-- An integer of fewer than 53 digits, with zeros behind the point. -/
theorem ofRatio?_of_log2_lt {k : Nat} (hN : N ≠ 0) (hk : N.log2 + k = 52) (hpos : 0 < k) :
    ofRatio? negative N 1 = some ⟨negative, N * 2 ^ k, -k⟩ := by
  have hscale : scaleDown N 1 (-k) = (N * 2 ^ k, 1) := by
    have hneg : ¬ 0 ≤ -(k : Int) := by omega
    simp only [scaleDown, if_neg hneg, Int.neg_neg, Int.toNat_natCast, twoTo_eq]
  have hpow : leadingBit = 2 ^ N.log2 * 2 ^ k := by rw [← Nat.pow_add, hk, leadingBit_eq]
  have hlead : leadingBit ≤ N * 2 ^ k / 1 := by
    rw [Nat.div_one, hpow]
    exact Nat.mul_le_mul_right _ (Nat.log2_self_le hN)
  have hlt : N * 2 ^ k / 1 < 2 * leadingBit := by
    rw [Nat.div_one, hpow, ← Nat.mul_assoc, ← Nat.pow_succ']
    exact Nat.mul_lt_mul_of_pos_right Nat.lt_log2_self (Nat.two_pow_pos k)
  have hexponent : exponentFor N 1 = -k :=
    exponentFor_of_leadingBit_le (by omega) hscale (by simp only [leastExponent]; omega) hlead
  rw [ofRatio?_of_dvd hN hexponent hscale Nat.one_pos (Nat.one_dvd _) hlt, Nat.div_one,
    if_neg (by simp only [greatestExponent]; omega)]

theorem toInt?_eq_some {x : Binary64} {n : Int} (hsign : x.negative = decide (n < 0))
    (h : (0 ≤ x.exponent ∧ x.mantissa * 2 ^ x.exponent.toNat = n.natAbs) ∨
      (x.exponent < 0 ∧ x.mantissa = n.natAbs * 2 ^ (-x.exponent).toNat)) :
    x.toInt? = some n := by
  have hvalue : (if x.negative then -(n.natAbs : Int) else n.natAbs) = n := by
    simp only [hsign, decide_eq_true_eq]
    split <;> omega
  rcases h with ⟨hexp, hmagnitude⟩ | ⟨hexp, hmantissa⟩
  · simp only [toInt?, if_pos hexp, twoTo_eq, hmagnitude]
    exact congrArg some hvalue
  · have hunit := Nat.two_pow_pos (-x.exponent).toNat
    simp only [toInt?, if_neg (Int.not_le.mpr hexp), twoTo_eq, hmantissa, Nat.mul_mod_left,
      Nat.mul_div_cancel _ hunit, if_true]
    exact congrArg some hvalue

/-- Where an integer can be held, the number that it is taken for is the same. -/
theorem toInt?_of_ofInt? {n : Int} {x : Binary64} (h : ofInt? n = some x) (hn : CanBeHeld n) :
    x.toInt? = some n := by
  rw [ofInt?] at h
  by_cases hzero : n.natAbs = 0
  · rw [hzero, ofRatio?, if_pos rfl, Option.some.injEq] at h
    subst h
    refine toInt?_eq_some rfl (Or.inr ⟨by simp [zero, leastExponent], ?_⟩)
    rw [hzero, Nat.zero_mul]
    rfl
  · rcases Nat.lt_or_ge n.natAbs.log2 52 with hlog | hlog
    · obtain ⟨k, hk⟩ := Nat.exists_eq_add_of_lt hlog
      rw [ofRatio?_of_log2_lt (k := k + 1) hzero (by omega) (by omega), Option.some.injEq] at h
      subst h
      refine toInt?_eq_some rfl (Or.inr ⟨?_, ?_⟩)
      · show -((k + 1 : Nat) : Int) < 0
        omega
      · simp
    · obtain ⟨g, hg⟩ := Nat.exists_eq_add_of_le hlog
      -- the zeros behind the first 53 digits are as many as the exponent says, or more
      have hdvd : 2 ^ g ∣ n.natAbs := by
        obtain ⟨m, k, hm, hmk⟩ := hn
        have hlt : n.natAbs < 2 ^ (53 + k) := by
          rw [hmk, Nat.pow_add]
          exact Nat.mul_lt_mul_of_pos_right hm (Nat.two_pow_pos k)
        have hlog2 := (Nat.log2_lt hzero).mpr hlt
        rw [hmk]
        exact Nat.dvd_mul_left_of_dvd (Nat.pow_dvd_pow 2 (by omega)) m
      rw [ofRatio?_of_le_log2 hzero hg hdvd] at h
      split at h
      · simp at h
      · rw [Option.some.injEq] at h
        subst h
        refine toInt?_eq_some rfl (Or.inl ⟨Int.natCast_nonneg g, ?_⟩)
        simpa using Nat.div_mul_cancel hdvd

end ItemSearch.Binary64
