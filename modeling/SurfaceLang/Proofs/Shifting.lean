import SurfaceLang.Proofs.Ranks

namespace SurfaceLang.Binary64

open Float.Model (Format UnpackedFloat totalExponent)
open Float.Model.UnpackedFloat

def half : Bool → ℚ
  | true => 1 / 2
  | false => 0

/-- The significand and the bit after it are the first ones of the number, and the last bit says
whether there is more to it. -/
structure Represents (extended : ExtendedMantissa) (x : ℚ) : Prop where
  low : extended.mantissa + half extended.roundBit ≤ x
  high : x < extended.mantissa + half extended.roundBit + 1 / 2
  sticky : extended.stickyBit = true ↔ extended.mantissa + half extended.roundBit < x

theorem half_nonneg (bit : Bool) : 0 ≤ half bit := by
  cases bit <;> simp [half]

theorem half_le (bit : Bool) : half bit ≤ 1 / 2 := by
  cases bit <;> simp [half]

theorem Represents.le {extended : ExtendedMantissa} {x : ℚ} (represents : Represents extended x) :
    extended.mantissa ≤ x :=
  (le_add_of_nonneg_right (half_nonneg _)).trans represents.low

theorem Represents.lt {extended : ExtendedMantissa} {x : ℚ} (represents : Represents extended x) :
    x < (extended.mantissa + 1 : ℕ) := by
  have high := represents.high
  have bound := half_le extended.roundBit
  push_cast
  linarith

theorem mantissa_ofMantissaAndAccuracy (m : ℕ) (accuracy : Accuracy) :
    (ExtendedMantissa.ofMantissaAndAccuracy m accuracy).mantissa = m := by
  cases accuracy with
  | exact => rfl
  | inexact order => cases order <;> rfl

theorem represents_add {round sticky : Bool} {part : ℚ} (m : ℕ) (low : half round ≤ part)
    (high : part < half round + 1 / 2) (sticky_iff : sticky = true ↔ half round < part) :
    Represents ⟨m, round, sticky⟩ (m + part) where
  low := by
    dsimp only
    linarith
  high := by
    dsimp only
    linarith
  sticky := sticky_iff.trans (add_lt_add_iff_left (m : ℚ)).symm

theorem represents_natCast (m : ℕ) : Represents ⟨m, false, false⟩ m := by
  have whole : Represents ⟨m, false, false⟩ (m + 0) :=
    represents_add m le_rfl (by simp [half]) (by simp [half])
  rwa [add_zero] at whole

theorem represents_div {den : ℕ} (pos : 0 < den) (num : ℕ) :
    Represents (.ofMantissaAndAccuracy (num / den) (accuracyOfFraction (num % den) den))
      (num / den) := by
  obtain ⟨part, isPart⟩ := exists_isPart pos num
  have above := isPart.nonneg pos
  have below := isPart.lt_one pos
  have denPos : (0 : ℚ) < den := by exact_mod_cast pos
  have whole : num % den = 0 ↔ part = 0 := by
    rw [← mul_eq_zero_iff_right denPos.ne', isPart.remainder, Nat.cast_eq_zero]
  unfold accuracyOfFraction
  rw [isPart.quotient, isPart.compare_half pos]
  split <;> rename_i rest <;> rw [whole] at rest
  · rw [rest, add_zero]
    exact represents_natCast _
  have some : 0 < part := lt_of_le_of_ne above (Ne.symm rest)
  rcases lt_trichotomy part (1 / 2) with lt | rfl | gt
  · rw [compare_lt_iff_lt.mpr lt]
    exact represents_add _ above (by rwa [half, zero_add]) (iff_of_true rfl some)
  · rw [compare_eq_iff_eq.mpr rfl]
    exact represents_add _ le_rfl (by simp [half]) (iff_of_false Bool.false_ne_true (lt_irrefl _))
  · rw [compare_gt_iff_gt.mpr gt]
    exact represents_add _ gt.le (by rwa [half, add_halves]) (iff_of_true rfl gt)

theorem Represents.shiftRightOne {extended : ExtendedMantissa} {x : ℚ}
    (represents : Represents extended x) : Represents extended.shiftRightOne (x / 2) := by
  obtain ⟨m, round, sticky⟩ := extended
  obtain ⟨low, high, sticky_iff⟩ := represents
  have halves : ((m / 2 : ℕ) : ℚ) + half (m % 2 != 0) = m / 2 := by
    have whole : (m : ℚ) = 2 * (m / 2 : ℕ) + (m % 2 : ℕ) := by
      exact_mod_cast (Nat.div_add_mod m 2).symm
    rcases Nat.mod_two_eq_zero_or_one m with even | odd
    · rw [even] at whole ⊢
      simp [half]
      linarith
    · rw [odd] at whole ⊢
      simp [half]
      linarith
  unfold ExtendedMantissa.shiftRightOne
  dsimp only at *
  cases round with
  | false =>
    simp only [half, add_zero] at low high sticky_iff
    refine ⟨?_, ?_, ?_⟩ <;> dsimp only <;> rw [halves]
    · linarith
    · linarith
    · rw [Bool.false_or, sticky_iff]
      constructor <;> intro lt <;> linarith
  | true =>
    simp only [half] at low high
    refine ⟨?_, ?_, ?_⟩ <;> dsimp only <;> rw [halves]
    · linarith
    · linarith
    · rw [Bool.true_or]
      exact iff_of_true rfl (by linarith)

theorem Represents.shiftRight {extended : ExtendedMantissa} {x : ℚ}
    (represents : Represents extended x) (k : ℕ) : Represents (extended >>> k) (x / 2 ^ k) := by
  induction k with
  | zero =>
    rw [pow_zero, div_one]
    exact represents
  | succ k ih =>
    rw [pow_succ, ← div_div]
    exact ih.shiftRightOne

theorem Represents.isNearest {extended : ExtendedMantissa} {x : ℚ}
    (represents : Represents extended x) : IsNearest x extended.roundedMantissa := by
  obtain ⟨m, round, sticky⟩ := extended
  obtain ⟨low, high, sticky_iff⟩ := represents
  dsimp only at low high sticky_iff
  unfold ExtendedMantissa.roundedMantissa
  cases round with
  | false =>
    simp only [half, add_zero] at low high sticky_iff
    cases sticky with
    | false =>
      obtain rfl : (m : ℚ) = x := le_antisymm low (by simpa using sticky_iff)
      exact isNearest_natCast m
    | true =>
      have above := sticky_iff.mp rfl
      show IsNearest x m
      refine ⟨by linarith, by linarith, ?_⟩
      rintro (tie | tie) <;> linarith
  | true =>
    simp only [half] at low high sticky_iff
    cases sticky with
    | false =>
      obtain rfl : m + 1 / 2 = x := le_antisymm low (by simpa using sticky_iff)
      show IsNearest (m + 1 / 2) (m + m % 2 : ℕ)
      rcases Nat.mod_two_eq_zero_or_one m with even | odd
      · rw [even, add_zero]
        exact ⟨by linarith, le_rfl, fun _ => even⟩
      · have next : ((m + 1 : ℕ) : ℚ) = m + 1 := Nat.cast_succ m
        rw [odd]
        exact ⟨by linarith, by linarith, fun _ => by omega⟩
    | true =>
      have above := sticky_iff.mp rfl
      have next : ((m + 1 : ℕ) : ℚ) = m + 1 := Nat.cast_succ m
      show IsNearest x (m + 1 : ℕ)
      refine ⟨by linarith, by linarith, ?_⟩
      rintro (tie | tie) <;> linarith

section

variable {m : ℕ} {e : ℤ} {accuracy : Accuracy} {y : ℚ}

theorem targetExponent_eq (m : ℕ) (e : ℤ) :
    Format.binary64.targetExponent (totalExponent m e) =
      max ((m.log2 : ℤ) + e - 52) leastExponent := by
  show max ((m.log2 : ℤ) + 1 + e - (53 : ℕ)) leastExponent = _
  congr 1
  omega

/-- The first shift of a number whose significand is long enough: what it leaves is the number,
rounded. -/
theorem rounded_of_represents (represents : Represents (.ofMantissaAndAccuracy m accuracy) y)
    (le : e ≤ Format.binary64.targetExponent (totalExponent m e)) :
    Rounded (y * 2 ^ e) (shiftToTargetExponent Format.binary64 m e accuracy).2
      (shiftToTargetExponent Format.binary64 m e accuracy).1.roundedMantissa := by
  have lower := represents.le
  have upper := represents.lt
  rw [mantissa_ofMantissaAndAccuracy] at lower upper
  have above : 0 ≤ y := (Nat.cast_nonneg m).trans lower
  have target := targetExponent_eq m e
  rw [shiftToTargetExponent, shiftToExponent]
  generalize Format.binary64.targetExponent (totalExponent m e) = t at le target ⊢
  obtain ⟨k, rfl⟩ : ∃ k : ℕ, t = e + k := ⟨(t - e).toNat, by omega⟩
  have shift : (e + k - e).toNat = k := by omega
  have scaled : y * 2 ^ e / 2 ^ (e + k) = y / 2 ^ k := by
    rw [zpow_add₀ two_ne_zero, zpow_natCast, mul_comm ((2 : ℚ) ^ e),
      mul_div_mul_right _ _ (by positivity)]
  simp only [shift]
  refine ⟨by positivity, by omega, fun lt => ?_, ?_, ?_⟩
  · have some : m ≠ 0 := by
      rintro rfl
      rw [Nat.log2_zero] at target
      omega
    have leading : (2 : ℚ) ^ m.log2 ≤ m := by exact_mod_cast Nat.log2_self_le some
    calc (2 : ℚ) ^ (e + k + 52) = 2 ^ m.log2 * 2 ^ e := by
          rw [← zpow_natCast, ← zpow_add₀ two_ne_zero]
          congr 1
          omega
      _ ≤ y * 2 ^ e := by gcongr; exact leading.trans lower
  · have trailing : ((m + 1 : ℕ) : ℚ) ≤ 2 ^ (m.log2 + 1) := by exact_mod_cast Nat.lt_log2_self
    calc y * 2 ^ e < 2 ^ (m.log2 + 1) * 2 ^ e := by gcongr; exact upper.trans_le trailing
      _ = 2 ^ ((m.log2 + 1 : ℕ) + e) := by rw [← zpow_natCast, ← zpow_add₀ two_ne_zero]
      _ ≤ 2 ^ (e + k + 53) := zpow_le_iff.mpr (by omega)
  · rw [scaled]
    exact (represents.shiftRight k).isNearest

theorem Rounded.shift {x : ℚ} {s : ℕ} (rounded : Rounded x e s) : ∃ m' e',
    shiftToTargetExponent Format.binary64 s e .exact = (⟨m', false, false⟩, e') ∧
      Canonical m' e' ∧ encoded e' m' = encoded e s := by
  have least := rounded.least
  rw [shiftToTargetExponent, targetExponent_eq, shiftToExponent]
  rcases rounded.le.eq_or_lt with rfl | small
  · have log : (2 ^ 53 : ℕ).log2 = 53 := Nat.log2_two_pow
    have shift : (max ((53 : ℕ) + e - 52) leastExponent - e).toNat = 1 := by omega
    refine ⟨2 ^ 52, e + 1, ?_, ⟨by decide, by omega, by omega⟩, ?_⟩
    · rw [log, shift]
      rfl
    · unfold encoded
      omega
  · have shift : (max ((s.log2 : ℤ) + e - 52) leastExponent - e).toNat = 0 := by
      have log : s.log2 < 53 := by
        rcases Nat.eq_zero_or_pos s with rfl | pos
        · decide
        · exact (Nat.log2_lt pos.ne').mpr small
      omega
    refine ⟨s, e, ?_, ⟨small, least, fun short => ?_⟩, rfl⟩
    · rw [shift, Nat.cast_zero, add_zero]
      rfl
    · by_contra later
      have leading := rounded.ge (by omega)
      omega

end

end SurfaceLang.Binary64
