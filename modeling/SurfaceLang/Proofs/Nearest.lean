import Mathlib.Algebra.Order.Field.Power
import Mathlib.Data.Rat.Cast.Order
import Mathlib.Tactic.Positivity
import Mathlib.Tactic.FieldSimp
import Mathlib.Tactic.Linarith
import Mathlib.Tactic.NormNum
import SurfaceLang.Binary64

namespace SurfaceLang.Binary64

theorem zpow_eq_div (k : ℤ) : (2 : ℚ) ^ k = 2 ^ k.toNat / 2 ^ (-k).toNat := by
  have parts := Int.toNat_sub_toNat_neg k
  calc (2 : ℚ) ^ k = 2 ^ ((k.toNat : ℤ) - ((-k).toNat : ℤ)) := by rw [parts]
    _ = 2 ^ k.toNat / 2 ^ (-k).toNat := by
      rw [zpow_sub₀ two_ne_zero, zpow_natCast, zpow_natCast]

theorem zpow_le_div_iff {num den : ℕ} (pos : 0 < den) (k : ℤ) :
    (2 : ℚ) ^ k ≤ num / den ↔ den * 2 ^ k.toNat ≤ num * 2 ^ (-k).toNat := by
  have denPos : (0 : ℚ) < den := by exact_mod_cast pos
  rw [zpow_eq_div, div_le_div_iff₀ (by positivity) denPos, mul_comm]
  exact_mod_cast Iff.rfl

theorem floorLog2_spec {num den : ℕ} (numPos : 0 < num) (denPos : 0 < den) :
    (2 : ℚ) ^ floorLog2 num den ≤ num / den ∧ (num : ℚ) / den < 2 ^ (floorLog2 num den + 1) := by
  have numLow : (2 : ℚ) ^ num.log2 ≤ num := by exact_mod_cast Nat.log2_self_le numPos.ne'
  have numHigh : (num : ℚ) < 2 ^ (num.log2 + 1) := by exact_mod_cast Nat.lt_log2_self
  have denLow : (2 : ℚ) ^ den.log2 ≤ den := by exact_mod_cast Nat.log2_self_le denPos.ne'
  have denHigh : (den : ℚ) < 2 ^ (den.log2 + 1) := by exact_mod_cast Nat.lt_log2_self
  have den_pos : (0 : ℚ) < den := by exact_mod_cast denPos
  have high : (num : ℚ) / den < 2 ^ ((num.log2 : ℤ) - den.log2 + 1) := by
    calc (num : ℚ) / den < 2 ^ (num.log2 + 1) / den := by gcongr
      _ ≤ 2 ^ (num.log2 + 1) / 2 ^ den.log2 := by gcongr
      _ = 2 ^ ((num.log2 : ℤ) - den.log2 + 1) := by
        rw [sub_add_eq_add_sub, zpow_sub₀ two_ne_zero, zpow_natCast, ← zpow_natCast, Nat.cast_succ]
  have low : (2 : ℚ) ^ ((num.log2 : ℤ) - den.log2 - 1) < num / den := by
    calc (2 : ℚ) ^ ((num.log2 : ℤ) - den.log2 - 1) = 2 ^ num.log2 / 2 ^ (den.log2 + 1) := by
          rw [sub_sub, zpow_sub₀ two_ne_zero, zpow_natCast, ← zpow_natCast 2 (_ + 1), Nat.cast_succ]
      _ ≤ num / 2 ^ (den.log2 + 1) := by gcongr
      _ < num / den := by gcongr
  unfold floorLog2
  dsimp only
  split <;> rename_i fits
  · exact ⟨(zpow_le_div_iff denPos _).mpr fits, high⟩
  · rw [← zpow_le_div_iff denPos, not_le] at fits
    exact ⟨low.le, by rwa [sub_add_cancel]⟩

theorem floorLog2_eq {num den : ℕ} {k : ℤ} (numPos : 0 < num) (denPos : 0 < den)
    (low : (2 : ℚ) ^ k ≤ num / den) (high : (num : ℚ) / den < 2 ^ (k + 1)) :
    floorLog2 num den = k := by
  obtain ⟨low', high'⟩ := floorLog2_spec numPos denPos
  have le := (zpow_lt_zpow_iff_right₀ (by norm_num : (1 : ℚ) < 2)).mp (low.trans_lt high')
  have ge := (zpow_lt_zpow_iff_right₀ (by norm_num : (1 : ℚ) < 2)).mp (low'.trans_lt high)
  omega

theorem roundHalfEven_mul {d : ℕ} (pos : 0 < d) (n : ℕ) : roundHalfEven (n * d) d = n := by
  unfold roundHalfEven
  simp [Nat.mul_div_cancel n pos, pos]

/-- The significands that a number with this exponent can have. -/
def Canonical (significand : ℕ) (exponent : ℤ) : Prop :=
  significand < 2 ^ 53 ∧ leastExponent ≤ exponent ∧
    (significand < 2 ^ 52 → exponent = leastExponent)

theorem Canonical.leading {s : ℕ} {p : ℤ} (canonical : Canonical s p) (lt : leastExponent < p) :
    2 ^ 52 ≤ s := by
  by_contra short
  have least := canonical.2.2 (by omega)
  omega

theorem exponentAt_eq {num den s : ℕ} {p : ℤ} (numPos : 0 < num) (denPos : 0 < den)
    (value : (num : ℚ) / den = s * 2 ^ p) (canonical : Canonical s p) : exponentAt num den = p := by
  obtain ⟨small, least, subnormal⟩ := canonical
  have pos : 0 < s := by
    rw [Nat.pos_iff_ne_zero]
    rintro rfl
    have quotient : (0 : ℚ) < num / den := by positivity
    simp [value] at quotient
  have low : (2 : ℚ) ^ s.log2 ≤ s := by exact_mod_cast Nat.log2_self_le pos.ne'
  have high : (s : ℚ) < 2 ^ (s.log2 + 1) := by exact_mod_cast Nat.lt_log2_self
  have log : floorLog2 num den = s.log2 + p := by
    apply floorLog2_eq numPos denPos
    · rw [value, zpow_add₀ two_ne_zero, zpow_natCast]
      gcongr
    · rw [value, add_right_comm, zpow_add₀ two_ne_zero, ← Nat.cast_succ, zpow_natCast]
      gcongr
  -- The exponent falls to the least one just if the significand has no leading one.
  have log_lt : s.log2 < 53 := (Nat.log2_lt pos.ne').mpr small
  unfold exponentAt
  rw [log]
  by_cases normal : s < 2 ^ 52
  · have log_lt : s.log2 < 52 := (Nat.log2_lt pos.ne').mpr normal
    have exponent := subnormal normal
    omega
  · have log_ge : 52 ≤ s.log2 := (Nat.le_log2 pos.ne').mpr (by omega)
    omega

theorem nearestBits_eq {num den s : ℕ} {p : ℤ} (denPos : 0 < den)
    (value : (num : ℚ) / den = s * 2 ^ p) (canonical : Canonical s p)
    (finite : (p - leastExponent).toNat * 2 ^ 52 + s < infinityBits) :
    nearestBits num den = (p - leastExponent).toNat * 2 ^ 52 + s := by
  unfold nearestBits
  by_cases none : num = 0
  · have zero : s = 0 := by
      rw [none, Nat.cast_zero, zero_div, eq_comm, mul_eq_zero] at value
      exact_mod_cast value.resolve_right (zpow_ne_zero p two_ne_zero)
    have least := canonical.2.2 (by omega)
    rw [if_pos none, zero, least]
    rfl
  · have numPos : 0 < num := Nat.pos_of_ne_zero none
    have scaled : num * 2 ^ (-p).toNat = s * (den * 2 ^ p.toNat) := by
      rw [zpow_eq_div] at value
      field_simp at value
      rw [← mul_assoc, mul_comm s]
      exact_mod_cast value
    rw [if_neg none]
    dsimp only
    rw [exponentAt_eq numPos denPos value canonical, scaled, roundHalfEven_mul (by positivity)]
    omega

theorem canonical_of_ofMagnitudeBits {negative sign : Bool} {bits s : ℕ} {p : ℤ}
    (finite : ofMagnitudeBits negative bits = .finite sign s p) :
    sign = negative ∧ Canonical s p ∧ bits = (p - leastExponent).toNat * 2 ^ 52 + s ∧
      bits < infinityBits := by
  unfold ofMagnitudeBits at finite
  unfold Canonical leastExponent infinityBits at *
  split at finite
  · cases finite
    refine ⟨rfl, ?_⟩
    omega
  · split at finite
    · cases finite
      refine ⟨rfl, ?_⟩
      omega
    · split at finite <;> cases finite

theorem magnitude_of_finite {v : Float} {s : ℕ} {p : ℤ} (finite : of v = .finite false s p) :
    ofMagnitudeBits false v.toBits.toNat = .finite false s p ∧
      v.toBits.toNat < infinityBits := by
  unfold of ofBits at finite
  obtain ⟨sign, _, _, small⟩ := canonical_of_ofMagnitudeBits finite
  have positive : v.toBits.toNat < 2 ^ 63 := Nat.not_le.mp (of_decide_eq_false sign.symm)
  rw [Nat.mod_eq_of_lt positive] at finite small
  rw [← sign] at finite
  exact ⟨finite, small⟩

end SurfaceLang.Binary64
