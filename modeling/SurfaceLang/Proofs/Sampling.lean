import SurfaceLang.Axis
import SurfaceLang.Proofs.Words

namespace SurfaceLang.Axis

open Binary64

variable {min max step : Float} {q : ℚ}

theorem steps?_eq_some_iff (n : ℕ) : steps? min max step = some n ↔
    ∃ q, valueOf ((max - min) / step) = some q ∧ ⌊q⌋ = n ∧ n < 2 ^ 64 := by
  rw [steps?, map_exactWord?_eq_count?, count?_eq_some_iff, ← valueOf, valueOf_roundedDown,
    Option.map_eq_some_iff]
  constructor
  · rintro ⟨⟨q, value, floor⟩, small⟩
    exact ⟨q, value, by exact_mod_cast floor, small⟩
  · rintro ⟨q, value, floor, small⟩
    exact ⟨⟨q, value, by exact_mod_cast floor⟩, small⟩

theorem word?_of_le {n : ℕ} (le : n ≤ maxSamples) : word? n = some n := by
  have fits : n < UInt32.size := lt_of_le_of_lt le (by decide)
  rw [word?, if_pos fits]

theorem eq_of_word?_eq_some {n w : ℕ} (fits : word? n = some w) : n = w := by
  unfold word? at fits
  split at fits <;> cases fits
  rfl

theorem sampleCount?_eq_some_iff (count : ℕ) : sampleCount? min max step = some count ↔
    ∃ n, steps? min max step = some n ∧ n < maxSamples ∧ count = n + 1 := by
  simp only [sampleCount?, Option.filter_eq_some_iff, Option.bind_eq_bind, Option.bind_eq_some_iff,
    decide_eq_true_eq]
  constructor
  · rintro ⟨⟨w, ⟨n, found, fits⟩, fits'⟩, le⟩
    obtain rfl := eq_of_word?_eq_some fits
    obtain rfl := eq_of_word?_eq_some fits'
    exact ⟨n, found, le, rfl⟩
  · rintro ⟨n, found, lt, rfl⟩
    exact ⟨⟨n, ⟨n, found, word?_of_le lt.le⟩, word?_of_le lt⟩, lt⟩

theorem sampleCount?_of_value (value : valueOf ((max - min) / step) = some q) (above : 0 ≤ q) :
    sampleCount? min max step = if 10000 ≤ q then none else some (⌊q⌋₊ + 1) := by
  split <;> rename_i many
  · rw [Option.eq_none_iff_forall_ne_some]
    intro count counted
    obtain ⟨n, steps, lt, rfl⟩ := (sampleCount?_eq_some_iff count).mp counted
    obtain ⟨q', value', floor, _⟩ := (steps?_eq_some_iff n).mp steps
    rw [value] at value'
    cases value'
    have least : (10000 : ℤ) ≤ ⌊q⌋ := Int.le_floor.mpr (by exact_mod_cast many)
    have bound : n < 10000 := lt
    omega
  · have floor : ⌊q⌋ = ⌊q⌋₊ := (Int.natCast_floor_eq_floor above).symm
    have few : ⌊q⌋₊ < 10000 := (Nat.floor_lt above).mpr (not_le.mp many)
    refine (sampleCount?_eq_some_iff _).mpr ⟨⌊q⌋₊, ?_, few, rfl⟩
    exact (steps?_eq_some_iff _).mpr ⟨q, value, floor, by omega⟩

theorem sampleCount?_of_infinite (infinite : of ((max - min) / step) = .infinite false) :
    sampleCount? min max step = none := by
  have none : steps? min max step = none := by
    rw [Option.eq_none_iff_forall_ne_some]
    intro n steps
    obtain ⟨q, value, -⟩ := (steps?_eq_some_iff n).mp steps
    rw [valueOf, infinite] at value
    cases value
  rw [sampleCount?, none]
  rfl

theorem quotient_cases {a b gap : ℚ} (minValue : valueOf min = some a)
    (maxValue : valueOf max = some b) (ordered : a ≤ b) (stepValue : valueOf step = some gap)
    (positive : 0 < gap) :
    of ((max - min) / step) = .infinite false ∨
      ∃ q, valueOf ((max - min) / step) = some q ∧ 0 ≤ q := by
  have unsigned {v : Float} (infinite : parts v = .infinity .positive) : of v = .infinite false := by
    rw [of_eq_ofUnpacked, infinite]
    rfl
  have difference := rounds_parts_sub maxValue minValue
  have apart := sub_nonneg.mpr ordered
  rcases difference.infinite_or_value apart with infinite | ⟨d, dValue, above⟩
  · exact .inl (unsigned (parts_div_infinite infinite stepValue positive))
  · have quotient := rounds_parts_div dValue stepValue positive.ne'
    exact (quotient.infinite_or_value (by positivity)).imp_left unsigned

/-- What comes of the numbers for an axis: which values they have, in the order of the checks. -/
inductive Decided (min max step : Float) : Except AxisError Axis → Prop where
  | minNotFinite (noMin : valueOf min = none) :
      Decided min max step (.error (.notFinite (floatText min)))
  | maxNotFinite {least : ℚ} (minValue : valueOf min = some least) (noMax : valueOf max = none) :
      Decided min max step (.error (.notFinite (floatText max)))
  | reversed {least greatest : ℚ} (minValue : valueOf min = some least)
      (maxValue : valueOf max = some greatest) (reversed : greatest < least) :
      Decided min max step (.error (.reversed min max))
  | badStep {least greatest : ℚ} (minValue : valueOf min = some least)
      (maxValue : valueOf max = some greatest) (ordered : least ≤ greatest)
      (bad : ∀ gap, valueOf step = some gap → gap ≤ 0) :
      Decided min max step (.error (.badStep step))
  | tooManySamples {least greatest gap : ℚ} (minValue : valueOf min = some least)
      (maxValue : valueOf max = some greatest) (ordered : least ≤ greatest)
      (stepValue : valueOf step = some gap) (positive : 0 < gap)
      (many : of ((max - min) / step) = .infinite false ∨
        ∃ q, valueOf ((max - min) / step) = some q ∧ 10000 ≤ q) :
      Decided min max step (.error (.tooManySamples 10000))
  | accepted {least greatest gap q : ℚ} (minValue : valueOf min = some least)
      (maxValue : valueOf max = some greatest) (ordered : least ≤ greatest)
      (stepValue : valueOf step = some gap) (positive : 0 < gap)
      (value : valueOf ((max - min) / step) = some q) (above : 0 ≤ q) (few : q < 10000) :
      Decided min max step (.ok ⟨min, step, ⌊q⌋₊ + 1⟩)

theorem badStep_iff (step : Float) : ¬ (of step).isFinite = true ∨ step ≤ 0.0 ↔
    ∀ gap, valueOf step = some gap → gap ≤ 0 := by
  rw [not_isFinite_iff]
  cases stepValue : valueOf step with
  | none => simp
  | some gap => simp [le_iff_valueOf_le stepValue valueOf_zero]

theorem decided_ofBounds (min max step : Float) :
    Decided min max step (ofBounds min max step) := by
  unfold ofBounds
  split <;> rename_i minFinite
  · exact .minNotFinite ((not_isFinite_iff min).mp minFinite)
  obtain ⟨least, minValue⟩ := (not_not_isFinite_iff min).mp minFinite
  split <;> rename_i maxFinite
  · exact .maxNotFinite minValue ((not_isFinite_iff max).mp maxFinite)
  obtain ⟨greatest, maxValue⟩ := (not_not_isFinite_iff max).mp maxFinite
  split <;> rename_i ordered <;> rw [lt_iff_valueOf_lt maxValue minValue] at ordered
  · exact .reversed minValue maxValue ordered
  rw [not_lt] at ordered
  split <;> rename_i good <;> rw [badStep_iff] at good
  · exact .badStep minValue maxValue ordered good
  obtain ⟨gap, stepValue, positive⟩ : ∃ gap, valueOf step = some gap ∧ 0 < gap := by
    simpa using good
  rcases quotient_cases minValue maxValue ordered stepValue positive with
    infinite | ⟨q, value, above⟩
  · rw [sampleCount?_of_infinite infinite]
    exact .tooManySamples minValue maxValue ordered stepValue positive (.inl infinite)
  · rw [sampleCount?_of_value value above]
    by_cases many : 10000 ≤ q
    · rw [if_pos many]
      exact .tooManySamples minValue maxValue ordered stepValue positive (.inr ⟨q, value, many⟩)
    · rw [if_neg many]
      exact .accepted minValue maxValue ordered stepValue positive value above (not_le.mp many)

theorem Decided.ofBounds_eq {result : Except AxisError Axis}
    (decided : Decided min max step result) : ofBounds min max step = result := by
  have finite {v : Float} {q : ℚ} (value : valueOf v = some q) : ¬ ¬ (of v).isFinite = true :=
    (not_not_isFinite_iff v).mpr ⟨q, value⟩
  have inOrder {least greatest : ℚ} (minValue : valueOf min = some least)
      (maxValue : valueOf max = some greatest) (ordered : least ≤ greatest) : ¬ max < min := by
    rw [lt_iff_valueOf_lt maxValue minValue]
    exact not_lt.mpr ordered
  have usable {gap : ℚ} (stepValue : valueOf step = some gap) (positive : 0 < gap) :
      ¬ (¬ (of step).isFinite = true ∨ step ≤ 0.0) := by
    rw [badStep_iff]
    exact fun bad => absurd (bad gap stepValue) (not_le.mpr positive)
  unfold ofBounds
  cases decided with
  | minNotFinite noMin => rw [if_pos ((not_isFinite_iff min).mpr noMin)]
  | maxNotFinite minValue noMax =>
    rw [if_neg (finite minValue), if_pos ((not_isFinite_iff max).mpr noMax)]
  | reversed minValue maxValue reversed =>
    rw [if_neg (finite minValue), if_neg (finite maxValue),
      if_pos ((lt_iff_valueOf_lt maxValue minValue).mpr reversed)]
  | badStep minValue maxValue ordered bad =>
    rw [if_neg (finite minValue), if_neg (finite maxValue),
      if_neg (inOrder minValue maxValue ordered),
      if_pos ((badStep_iff step).mpr bad)]
  | tooManySamples minValue maxValue ordered stepValue positive many =>
    have none : sampleCount? min max step = none := by
      rcases many with infinite | ⟨q, value, many⟩
      · exact sampleCount?_of_infinite infinite
      · rw [sampleCount?_of_value value (by linarith), if_pos many]
    rw [if_neg (finite minValue), if_neg (finite maxValue),
      if_neg (inOrder minValue maxValue ordered),
      if_neg (usable stepValue positive), none]
    rfl
  | accepted minValue maxValue ordered stepValue positive value above few =>
    rw [if_neg (finite minValue), if_neg (finite maxValue),
      if_neg (inOrder minValue maxValue ordered),
      if_neg (usable stepValue positive), sampleCount?_of_value value above,
      if_neg (not_le.mpr few)]

theorem getElem?_samples (axis : Axis) {i : ℕ} (lt : i < axis.count) :
    axis.samples[i]? = some (axis.min + axis.step * Float.ofNat i) := by
  rw [samples, List.getElem?_map, List.getElem?_range lt]
  rfl

theorem length_samples (axis : Axis) : axis.samples.length = axis.count := by
  rw [samples, List.length_map, List.length_range]

/-- The checks come in one order and exclude each other, whatever the numbers are. An axis that
passes them has as many samples as whole steps fit between its limits, and one more; each is at its
number of steps from the first. -/
theorem ofBounds_decides (min max step : Float) (result : Except AxisError Axis) :
    (ofBounds min max step = result ↔ Decided min max step result) ∧
    ∀ axis, ofBounds min max step = .ok axis →
      1 ≤ axis.count ∧ axis.count ≤ 10000 ∧ axis.samples.length = axis.count ∧
        ∀ i < axis.count, axis.samples[i]? = some (min + step * Float.ofNat i) ∧
          valueOf (Float.ofNat i) = some (i : ℚ) := by
  constructor
  · constructor
    · rintro rfl
      exact decided_ofBounds min max step
    · exact Decided.ofBounds_eq
  · intro axis made
    have decided := decided_ofBounds min max step
    rw [made] at decided
    cases decided with
    | @accepted _ _ _ q _ _ _ _ _ _ above few =>
      have bound : ⌊q⌋₊ < 10000 := (Nat.floor_lt above).mpr few
      refine ⟨Nat.le_add_left 1 _, bound, length_samples _, fun i lt => ?_⟩
      exact ⟨getElem?_samples _ lt, valueOf_ofNat (by dsimp only at lt; omega)⟩

example : ofBounds 0 9999 1 = .ok ⟨0, 1, 10000⟩ := by decide +kernel

example : ofBounds 0 10000 1 = .error (.tooManySamples 10000) := by decide +kernel

/-- The quotient is a negative zero here, which is a whole number of steps. -/
example : ofBounds 0 (-0.0) 1 = .ok ⟨0, 1, 1⟩ := by decide +kernel

end SurfaceLang.Axis
