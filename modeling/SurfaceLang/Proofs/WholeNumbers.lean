import SurfaceLang.Proofs.Exact

namespace SurfaceLang.Binary64

open Float.Model (Format UnpackedFloat totalExponent)
open Float.Model.UnpackedFloat

/-- A significand with all its 53 bits, and an exponent that is stored. -/
structure Normal (m : ℕ) (e : ℤ) : Prop where
  low : 2 ^ 52 ≤ m
  high : m < 2 ^ 53
  least : leastExponent ≤ e
  greatest : e < 972

theorem Normal.pos {m : ℕ} {e : ℤ} (normal : Normal m e) : 0 < m :=
  lt_of_lt_of_le (by decide) normal.low

theorem shiftRight_exact (m k : ℕ) :
    (⟨m * 2 ^ k, false, false⟩ : ExtendedMantissa) >>> k = ⟨m, false, false⟩ := by
  induction k generalizing m with
  | zero =>
    rw [pow_zero, mul_one]
    rfl
  | succ k ih =>
    have step : (⟨m * 2 ^ (k + 1), false, false⟩ : ExtendedMantissa) >>> (k + 1) =
        ((⟨m * 2 * 2 ^ k, false, false⟩ : ExtendedMantissa) >>> k).shiftRightOne := by
      rw [pow_succ', ← mul_assoc]
      rfl
    rw [step, ih]
    simp [ExtendedMantissa.shiftRightOne]

section

variable {m : ℕ} {e : ℤ} (normal : Normal m e) (k : ℕ)

include normal

theorem Normal.targetExponent_eq :
    Format.binary64.targetExponent (totalExponent (m * 2 ^ k) (e - k)) = e := by
  have pos := normal.pos
  have least := normal.least
  have log : (m * 2 ^ k).log2 = 52 + k := by
    rw [Nat.log2_eq_iff (by positivity)]
    constructor
    · rw [pow_add]
      exact Nat.mul_le_mul_right _ normal.low
    · rw [add_right_comm, pow_add]
      exact Nat.mul_lt_mul_of_pos_right normal.high (by positivity)
  rw [totalExponent, log, Format.targetExponent]
  show max (((52 + k : ℕ) : ℤ) + 1 + (e - k) - (53 : ℕ)) leastExponent = e
  omega

theorem Normal.shiftToTargetExponent_eq :
    shiftToTargetExponent Format.binary64 (m * 2 ^ k) (e - k) .exact = (⟨m, false, false⟩, e) := by
  have shift : (e - (e - k)).toNat = k := by omega
  have mantissa : ExtendedMantissa.ofMantissaAndAccuracy (m * 2 ^ k) .exact =
      ⟨m * 2 ^ k, false, false⟩ := rfl
  rw [shiftToTargetExponent, normal.targetExponent_eq, shiftToExponent]
  simp only [shift, mantissa, shiftRight_exact, sub_add_cancel]

theorem Normal.roundWithAccuracy_eq (s : Sign) :
    roundWithAccuracy Format.binary64 s (m * 2 ^ k) (e - k) .exact =
      .finite s m e normal.pos := by
  have again := normal.shiftToTargetExponent_eq 0
  rw [pow_zero, mul_one, Nat.cast_zero, sub_zero] at again
  have rounded : ExtendedMantissa.roundedMantissa ⟨m, false, false⟩ = m := rfl
  rw [roundWithAccuracy, normal.shiftToTargetExponent_eq]
  simp only [rounded, again]
  rw [dif_neg normal.pos.ne']

theorem Normal.unpack_pack (s : Sign) :
    unpack Format.binary64 (pack Format.binary64 (.finite s m e normal.pos)) =
      .finite s m e normal.pos := by
  obtain ⟨low, high, least, greatest⟩ := normal
  obtain ⟨biased, rfl⟩ : ∃ biased : ℕ, e = biased - 1075 := by
    refine ⟨(e + 1075).toNat, ?_⟩
    unfold leastExponent at least
    omega
  unfold leastExponent at least
  have sign : Sign.ofBitVec s.toBitVec = s := by cases s <;> rfl
  have exponent : (BitVec.ofNat 11 biased).toNat = biased := by
    rw [BitVec.toNat_ofNat]
    omega
  have mantissa : (1#1 ++ BitVec.ofNat 52 m).toNat = m := by
    rw [toNat_leading_append, BitVec.toNat_ofNat]
    omega
  have notLargest : BitVec.ofNat 11 biased ≠ -1#_ := by
    intro eq
    have largest : (BitVec.ofNat 11 biased).toNat = 2047 := by rw [eq]; rfl
    omega
  have notLeast : BitVec.ofNat 11 biased ≠ 0#_ := by
    intro eq
    have zero : (BitVec.ofNat 11 biased).toNat = 0 := by rw [eq]; rfl
    omega
  rw [pack_normal (by omega) low high (by omega), unpack]
  simp only [unpackMantissa_packComponents, unpackExponent_packComponents,
    unpackSign_packComponents, sign]
  rw [if_neg notLargest, if_neg notLeast]
  simp only [exponent, mantissa]
  rfl

end

theorem normal_of_natCast {n : ℕ} (pos : 0 < n) (small : n < 2 ^ 53) :
    Normal (n * 2 ^ (52 - n.log2)) (n.log2 - 52) := by
  have log : n.log2 < 53 := (Nat.log2_lt pos.ne').mpr small
  refine ⟨?_, ?_, by unfold leastExponent; omega, by omega⟩
  · calc 2 ^ 52 = 2 ^ n.log2 * 2 ^ (52 - n.log2) := by
          rw [← pow_add]
          congr 1
          omega
      _ ≤ n * 2 ^ (52 - n.log2) := Nat.mul_le_mul_right _ (Nat.log2_self_le pos.ne')
  · calc n * 2 ^ (52 - n.log2) < 2 ^ (n.log2 + 1) * 2 ^ (52 - n.log2) :=
          Nat.mul_lt_mul_of_pos_right Nat.lt_log2_self (by positivity)
      _ = 2 ^ 53 := by
          rw [← pow_add]
          congr 1
          omega

theorem round_natCast {n : ℕ} (pos : 0 < n) (small : n < 2 ^ 53) :
    UnpackedFloat.round Format.binary64 .positive n 0 =
      .finite .positive (n * 2 ^ (52 - n.log2)) (n.log2 - 52) (by positivity) := by
  have log : n.log2 < 53 := (Nat.log2_lt pos.ne').mpr small
  have target : Format.binary64.targetExponent (totalExponent n 0) = n.log2 - 52 := by
    show max ((n.log2 : ℤ) + 1 + 0 - (53 : ℕ)) leastExponent = _
    unfold leastExponent
    omega
  have shift : (0 - ((n.log2 : ℤ) - 52)).toNat = 52 - n.log2 := by omega
  have exponent : (0 : ℤ) - ((52 - n.log2 : ℕ) : ℤ) = n.log2 - 52 := by omega
  have filled := (normal_of_natCast pos small).roundWithAccuracy_eq 0 .positive
  rw [pow_zero, mul_one, Nat.cast_zero, sub_zero] at filled
  rw [UnpackedFloat.round, target, decreaseExponent, shift]
  simp only [exponent, Nat.shiftLeft_eq, filled]

theorem parts_toFloat {n : ℕ} (pos : 0 < n) (small : n < 2 ^ 53) : parts n.toUInt64.toFloat =
    .finite .positive (n * 2 ^ (52 - n.log2)) (n.log2 - 52) (by positivity) := by
  have word : n.toUInt64.toNat = n := by
    show n % 2 ^ 64 = n
    omega
  have positive : compare (n : ℤ) 0 = .gt := compare_gt_iff_gt.mpr (by omega)
  show unpack Format.binary64 (pack Format.binary64
    (UnpackedFloat.normalize Format.binary64 n.toUInt64.toNat 0 .positive)) = _
  rw [word, UnpackedFloat.normalize, positive]
  simp only [Int.toNat_natCast, round_natCast pos small]
  exact (normal_of_natCast pos small).unpack_pack .positive

theorem Normal.parts_mul_one {m : ℕ} {e : ℤ} (normal : Normal m e) {v : Float}
    (eq : parts v = .finite .positive m e normal.pos) :
    parts (v * Float.ofBits 0x3FF0000000000000) = .finite .positive m e normal.pos := by
  have one : parts (Float.ofBits 0x3FF0000000000000) =
      .finite .positive (2 ^ 52) (-52) (by decide) := rfl
  show unpack Format.binary64 (pack Format.binary64 ((parts v).mul Format.binary64
    (parts (Float.ofBits 0x3FF0000000000000)))) = _
  rw [eq, one]
  exact (congrArg (fun u => unpack Format.binary64 (pack Format.binary64 u))
    (normal.roundWithAccuracy_eq 52 .positive)).trans (normal.unpack_pack .positive)

theorem valueOf_ofNat {n : ℕ} (small : n < 2 ^ 53) : valueOf (Float.ofNat n) = some (n : ℚ) := by
  rcases Nat.eq_zero_or_pos n with rfl | pos
  · have zero : parts (Float.ofNat 0) = .zero .positive := rfl
    rw [valueOf, of_eq_ofUnpacked, zero]
    simp [ofUnpacked, value]
  -- A number that is read from digits is multiplied by its power of ten, here by one.
  · have scaled : Float.ofNat n = n.toUInt64.toFloat * Float.ofBits 0x3FF0000000000000 := by
      show Float.ofScientific n false 0 = _
      rw [Float.ofScientific, dif_pos ⟨small, by decide⟩]
      rfl
    have log : n.log2 < 53 := (Nat.log2_lt pos.ne').mpr small
    rw [valueOf, of_eq_ofUnpacked, scaled,
      (normal_of_natCast pos small).parts_mul_one (parts_toFloat pos small)]
    have back : ((n.log2 : ℤ) - 52) = -((52 - n.log2 : ℕ) : ℤ) := by omega
    simp only [ofUnpacked, value, isNegative, back]
    rw [if_neg Bool.false_ne_true, zpow_neg, zpow_natCast, Nat.cast_mul, Nat.cast_pow, Nat.cast_two,
      mul_inv_cancel_right₀ (by positivity)]

end SurfaceLang.Binary64
