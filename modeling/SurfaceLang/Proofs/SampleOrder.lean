import SurfaceLang.Proofs.Sampling

namespace SurfaceLang.Axis

open Binary64

section

variable {min max step : Float} {a b gap q : ℚ} (minValue : valueOf min = some a)
  (stepValue : valueOf step = some gap) (positive : 0 < gap)

include stepValue

theorem rounds_offset {i : ℕ} (small : i < 2 ^ 53) :
    Rounds (parts (step * Float.ofNat i)) (gap * i) :=
  rounds_parts_mul stepValue (valueOf_ofNat small)

include minValue positive

theorem min_le_sample {i : ℕ} (small : i < 2 ^ 53) : min ≤ min + step * Float.ofNat i :=
  (rounds_offset stepValue small).le_add (by positivity) minValue

theorem sample_mono {i j : ℕ} (small : j < 2 ^ 53) (le : i ≤ j) :
    min + step * Float.ofNat i ≤ min + step * Float.ofNat j := by
  have offset := rounds_offset stepValue (le.trans_lt small)
  refine offset.add_le_add (by positivity) minValue (rounds_offset stepValue small) ?_
  gcongr

theorem difference_le_offset (maxValue : valueOf max = some b) {i : ℕ} (small : i < 2 ^ 53)
    (beyond : ¬ min + step * Float.ofNat i ≤ max) :
    rank (parts (max - min)) ≤ nearestRank (gap * i) := by
  have offset := rounds_offset stepValue small
  rw [← offset.rank_eq]
  rcases offset.infinite_or_value (by positivity) with infinite | ⟨t, value, -⟩
  · rw [infinite]
    exact rank_le_infinityBits (isStored_parts _)
  · have far : b - a ≤ t := by
      by_contra near
      exact beyond ((rounds_parts_add minValue value).le (rounds_of_valueOf maxValue) (by linarith))
    rw [(rounds_parts_sub maxValue minValue).rank_eq, (rounds_of_valueOf value).rank_eq]
    exact nearestRank_mono far

theorem difference_le (maxValue : valueOf max = some b) {d : ℚ} (value : valueOf (max - min) = some d)
    {i : ℕ} (small : i < 2 ^ 50) (beyond : ¬ min + step * Float.ofNat i ≤ max) :
    d ≤ gap * (i + 1 / 2) := by
  have ranks := difference_le_offset minValue stepValue positive maxValue (by omega) beyond
  obtain ⟨m, e, least, eq⟩ := exists_significand stepValue positive
  have whole : gap * i = (m * i : ℕ) * 2 ^ e := by
    rw [eq]
    push_cast
    ring
  rw [whole] at ranks
  have error := le_of_rank_le least value ranks
  rw [← whole] at error
  have bound : (i : ℚ) / 2 ^ 53 ≤ 1 / 2 := by
    have cast : (i : ℚ) < 2 ^ 50 := by exact_mod_cast small
    linarith
  calc d ≤ gap * (i + i / 2 ^ 53) := by linarith
    _ ≤ gap * (i + 1 / 2) := by gcongr

theorem sample_le_max (maxValue : valueOf max = some b) (ordered : a ≤ b)
    (value : valueOf ((max - min) / step) = some q) {i : ℕ} (small : i < 2 ^ 50)
    (fits : i + 1 ≤ q) : min + step * Float.ofNat i ≤ max := by
  by_contra beyond
  have difference := rounds_parts_sub maxValue minValue
  rcases difference.infinite_or_value (sub_nonneg.mpr ordered) with infinite | ⟨d, dValue, -⟩
  · have quotient := parts_div_infinite infinite stepValue positive
    rw [valueOf, of_eq_ofUnpacked, quotient] at value
    cases value
  have near := difference_le minValue stepValue positive maxValue dValue small beyond
  have quotient := rounds_parts_div dValue stepValue positive.ne'
  have half : (i : ℚ) + 1 / 2 = (2 * i + 1 : ℕ) * 2 ^ (-1 : ℤ) := by
    push_cast
    ring
  have ranks : rank (parts ((max - min) / step)) ≤ nearestRank ((2 * i + 1 : ℕ) * 2 ^ (-1 : ℤ)) := by
    rw [quotient.rank_eq, ← half]
    refine nearestRank_mono ?_
    rw [div_le_iff₀ positive, mul_comm]
    exact near
  have error := le_of_rank_le (by decide) value ranks
  rw [← half] at error
  have cast : (i : ℚ) < 2 ^ 50 := by exact_mod_cast small
  linarith

end

theorem forall_mem_samples (axis : Axis) (holds : Float → Prop) : (∀ x ∈ axis.samples, holds x) ↔
    ∀ i < axis.count, holds (axis.min + axis.step * Float.ofNat i) := by
  simp only [samples, List.forall_mem_map, List.mem_range]
  rfl

theorem dropLast_samples (min step : Float) (n : ℕ) :
    (⟨min, step, n + 1⟩ : Axis).samples.dropLast = (⟨min, step, n⟩ : Axis).samples := by
  rw [samples, List.range_succ, List.map_append, List.map_singleton, List.dropLast_concat]
  rfl

/-- The samples on an axis are in order, from the minimum on, and all but the last are within its
limits. The last one is placed by a count that may have been rounded up, so it can be beyond: all
are within the limits just if it is. -/
theorem samples_ordered {min max step : Float} {axis : Axis}
    (made : ofBounds min max step = .ok axis) :
    axis.samples.Pairwise (· ≤ ·) ∧ (∀ x ∈ axis.samples, min ≤ x) ∧
      (∀ x ∈ axis.samples.dropLast, x ≤ max) ∧
        ((∀ x ∈ axis.samples, x ≤ max) ↔ min + step * Float.ofNat (axis.count - 1) ≤ max) := by
  have decided := decided_ofBounds min max step
  rw [made] at decided
  cases decided with
  | @accepted a b gap q minValue maxValue ordered stepValue positive value above few =>
    have count : ⌊q⌋₊ < 10000 := (Nat.floor_lt above).mpr few
    have within (i : ℕ) (lt : i < ⌊q⌋₊) : min + step * Float.ofNat i ≤ max := by
      have fits : ((i + 1 : ℕ) : ℚ) ≤ q := (Nat.le_floor_iff above).mp lt
      rw [Nat.cast_succ] at fits
      exact sample_le_max minValue stepValue positive maxValue ordered value (by omega) fits
    rw [dropLast_samples, forall_mem_samples, forall_mem_samples, forall_mem_samples]
    dsimp only
    refine ⟨?_, fun i lt => ?_, within, ?_⟩
    · refine List.pairwise_map.mpr (List.pairwise_lt_range.imp_of_mem fun {i j} _ inRange lt => ?_)
      rw [List.mem_range] at inRange
      dsimp only at inRange
      exact sample_mono minValue stepValue positive (by omega) lt.le
    · exact min_le_sample minValue stepValue positive (by omega)
    · rw [Nat.add_sub_cancel]
      refine ⟨fun all => all _ (Nat.lt_succ_self _), fun last i lt => ?_⟩
      rcases (Nat.lt_succ_iff.mp lt).lt_or_eq with before | rfl
      · exact within i before
      · exact last

theorem samples_ordered_quarters : ofBounds 0 1 0.25 = .ok ⟨0, 0.25, 5⟩ ∧
    (⟨0, 0.25, 5⟩ : Axis).samples.Pairwise (· ≤ ·) ∧
      (∀ x ∈ (⟨0, 0.25, 5⟩ : Axis).samples, 0 ≤ x) ∧
        (∀ x ∈ (⟨0, 0.25, 5⟩ : Axis).samples.dropLast, x ≤ 1) ∧
          ∀ x ∈ (⟨0, 0.25, 5⟩ : Axis).samples, x ≤ 1 := by
  have made : ofBounds 0 1 0.25 = .ok ⟨0, 0.25, 5⟩ := by decide +kernel
  obtain ⟨inOrder, least, inner, within⟩ := samples_ordered made
  exact ⟨made, inOrder, least, inner, within.mpr (by decide +kernel)⟩

/-- The distance between the limits is rounded up to one step here. -/
theorem sample_beyond_max : ofBounds (-0.1) 0.3 0.4 = .ok ⟨-0.1, 0.4, 2⟩ ∧
    ∃ x ∈ (⟨-0.1, 0.4, 2⟩ : Axis).samples, ¬ x ≤ 0.3 := by
  decide +kernel

/-- The step is a third of the greatest float, rounded up. The quotient is rounded up to three, and
three steps are infinite. -/
example : ofBounds 0 (Float.ofBits 0x7FEFFFFFFFFFFFFF) (Float.ofBits 0x7FD5555555555555) =
      .ok ⟨0, Float.ofBits 0x7FD5555555555555, 4⟩ ∧
    (⟨0, Float.ofBits 0x7FD5555555555555, 4⟩ : Axis).sample 3 = Float.ofBits 0x7FF0000000000000 := by
  decide +kernel

end SurfaceLang.Axis
