import ItemSearch.Query.Compile
import Mathlib.Algebra.Order.Floor.Semiring
import Mathlib.Data.NNReal.Basic

/-!
How often a distance is counted. The ranges of a facet of distances are steps of one width and the
rest behind them, so a distance lies in the step whose number is the quotient by the width, or in
the rest, or between the last step and the rest, where it is not counted at all.
-/

namespace ItemSearch

/-- The distance lies in the range, whose upper end is not part of it. -/
def DistanceRange.Contains (d : NNReal) (r : DistanceRange) : Prop :=
  r.lower ≤ d ∧ ∀ upper ∈ r.upper, d < (upper : Nat)

noncomputable instance (d : NNReal) : DecidablePred (DistanceRange.Contains d) :=
  Classical.decPred _

/-- The ranges that an aggregation counts apart from each other. -/
def Aggregation.ranges : Aggregation → List DistanceRange
  | .distances _ _ ranges => ranges
  | .terms _ _ | .dates _ _ => []

/-- In how many of its ranges an aggregation counts what is at this distance. -/
noncomputable def Aggregation.timesCounted (a : Aggregation) (d : NNReal) : Nat :=
  a.ranges.countP (DistanceRange.Contains d)

namespace Compiler

variable {width steps rest : Nat} {d : NNReal}

/-- Steps of one width, and what is far away. -/
def stepsAndRest (width steps rest : Nat) : List DistanceRange :=
  (List.range steps).map (fun i => ⟨width * i, some (width * i + width)⟩) ++ [⟨rest, none⟩]

theorem distanceRanges_eq : distanceRanges = stepsAndRest 100 20 2100 := rfl

theorem step_contains_iff (hwidth : 0 < width) {i : Nat} :
    DistanceRange.Contains d ⟨width * i, some (width * i + width)⟩ ↔ i = ⌊d / width⌋₊ := by
  have hpos : (0 : NNReal) < width := Nat.cast_pos.mpr hwidth
  rw [eq_comm, Nat.floor_eq_iff zero_le, le_div_iff₀ hpos, div_lt_iff₀ hpos, add_one_mul]
  simp [DistanceRange.Contains, mul_comm]

/-- A distance lies in one of the steps at most, and in none from the end of the last one on. -/
theorem countP_steps (hwidth : 0 < width) :
    ((List.range steps).map fun i => (⟨width * i, some (width * i + width)⟩ : DistanceRange)).countP
      (DistanceRange.Contains d) = if d < (width * steps : Nat) then 1 else 0 := by
  have hpos : (0 : NNReal) < width := Nat.cast_pos.mpr hwidth
  have hbehind : ⌊d / width⌋₊ < steps ↔ d < (width * steps : Nat) := by
    rw [Nat.floor_lt zero_le, div_lt_iff₀ hpos, Nat.cast_mul, mul_comm]
  have hcount : ((List.range steps).map fun i =>
      (⟨width * i, some (width * i + width)⟩ : DistanceRange)).countP (DistanceRange.Contains d) =
        (List.range steps).count ⌊d / width⌋₊ := by
    rw [List.countP_map, List.count]
    refine List.countP_congr fun i _ => ?_
    simp [step_contains_iff hwidth]
  rw [hcount, List.nodup_range.count]
  simp only [List.mem_range, hbehind]

theorem timesCounted_stepsAndRest (path origin : String) (hwidth : 0 < width)
    (hrest : width * steps ≤ rest) (d : NNReal) :
    (Aggregation.distances path origin (stepsAndRest width steps rest)).timesCounted d =
      if (width * steps : Nat) ≤ d ∧ d < rest then 0 else 1 := by
  have hcast : ((width * steps : Nat) : NNReal) ≤ rest := Nat.cast_le.mpr hrest
  have hlast : DistanceRange.Contains d ⟨rest, none⟩ ↔ rest ≤ d := by
    simp [DistanceRange.Contains]
  rw [Aggregation.timesCounted, Aggregation.ranges, stepsAndRest, List.countP_append,
    countP_steps hwidth, List.countP_singleton]
  simp only [decide_eq_true_eq, hlast]
  by_cases hsteps : d < (width * steps : Nat)
  · have hnear : ¬ (rest : NNReal) ≤ d := not_le.mpr (hsteps.trans_le hcast)
    rw [if_pos hsteps, if_neg hnear, if_neg fun h => absurd h.1 (not_le.mpr hsteps)]
  · rw [if_neg hsteps]
    by_cases hfar : (rest : NNReal) ≤ d
    · rw [if_pos hfar, if_neg fun h => absurd h.2 (not_lt.mpr hfar)]
    · rw [if_neg hfar, if_pos ⟨not_lt.mp hsteps, not_le.mp hfar⟩]

/-- Every distance is counted once, except for those from 2000 miles up to 2100, which are not
counted: they lie behind the last step, and the rest begins after them. -/
theorem timesCounted_distanceAggregation (path origin : String) (d : NNReal) :
    (distanceAggregation path origin).timesCounted d = if 2000 ≤ d ∧ d < 2100 then 0 else 1 := by
  have hcount := timesCounted_stepsAndRest path (placeOf origin) (by decide : 0 < 100)
    (by decide : 100 * 20 ≤ 2100) d
  rw [← distanceRanges_eq] at hcount
  rw [distanceAggregation, hcount]
  norm_num

/-- An item between the last step and the rest. -/
theorem distance_not_counted :
    (distanceAggregation "sourceResource.spatial.coordinates" "42.3:-71.1").timesCounted 2050 ≠
      1 := by
  have hcount := timesCounted_stepsAndRest "sourceResource.spatial.coordinates"
    (placeOf "42.3:-71.1") (by decide : 0 < 100) (by decide : 100 * 20 ≤ 2100) 2050
  rw [← distanceRanges_eq] at hcount
  rw [distanceAggregation, hcount]
  norm_num

end Compiler

end ItemSearch
