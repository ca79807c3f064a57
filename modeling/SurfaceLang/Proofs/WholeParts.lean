import SurfaceLang.Proofs.Arithmetic

namespace SurfaceLang.Binary64

open Float.Model (Format UnpackedFloat)
open Float.Model.UnpackedFloat

theorem ofMagnitudeBits_encoded {s : ℕ} {p : ℤ} (canonical : Canonical s p)
    (finite : encoded p s < infinityBits) (negative : Bool) :
    ofMagnitudeBits negative (encoded p s) = .finite negative s p := by
  obtain ⟨small, least, subnormal⟩ := canonical
  unfold encoded infinityBits leastExponent at *
  unfold ofMagnitudeBits infinityBits leastExponent
  rcases Nat.lt_or_ge s (2 ^ 52) with short | leading
  · have exponent := subnormal short
    rw [if_pos (by omega)]
    congr 1 <;> omega
  · rw [if_neg (by omega), if_pos finite]
    congr 1 <;> omega

structure Composed (v : Float) (negative : Bool) (s : ℕ) (p : ℤ) : Prop where
  canonical : Canonical s p
  finite : encoded p s < infinityBits
  sign : decide (2 ^ 63 ≤ v.toBits.toNat) = negative
  magnitude : v.toBits.toNat % 2 ^ 63 = encoded p s

def fractionOf (negative : Bool) (s : ℕ) (p : ℤ) : ℚ :=
  if negative then -(s * 2 ^ p) else s * 2 ^ p

theorem composed_of_finite {v : Float} {negative : Bool} {s : ℕ} {p : ℤ}
    (eq : of v = .finite negative s p) : Composed v negative s p := by
  unfold of ofBits at eq
  obtain ⟨sign, canonical, bits, small⟩ := canonical_of_ofMagnitudeBits eq
  exact ⟨canonical, lt_of_eq_of_lt bits.symm small, sign.symm, bits⟩

theorem exists_composed {v : Float} {q : ℚ} (found : valueOf v = some q) :
    ∃ negative s p, Composed v negative s p ∧ q = fractionOf negative s p := by
  unfold valueOf at found
  cases eq : of v with
  | nan | infinite => rw [eq] at found; cases found
  | finite negative s p =>
    rw [eq] at found
    cases found
    exact ⟨negative, s, p, composed_of_finite eq, rfl⟩

theorem valueOf_toFloat_encoded {s : ℕ} {p : ℤ} (canonical : Canonical s p)
    (finite : encoded p s < infinityBits) (negative : Bool) :
    valueOf (toFloat negative (encoded p s)) = some (fractionOf negative s p) := by
  rw [valueOf, of_toFloat_signed finite.le, ofMagnitudeBits_encoded canonical finite]
  rfl

theorem wholeBits_eq {bits k : ℕ} (above : 1023 * 2 ^ 52 ≤ bits)
    (behind : 1075 - bits / 2 ^ 52 = k) : wholeBits bits = bits / 2 ^ k * 2 ^ k := by
  rw [wholeBits, if_neg above.not_gt]
  dsimp only
  rw [behind]

section

variable {s : ℕ} {p : ℤ} (canonical : Canonical s p)

include canonical

theorem wholeBits_of_small (small : p < -52) :
    wholeBits (encoded p s) = 0 ∧ ⌊(s * 2 ^ p : ℚ)⌋₊ = 0 := by
  constructor
  · obtain ⟨short, least, -⟩ := canonical
    rw [wholeBits, if_pos]
    unfold encoded leastExponent at *
    omega
  · rw [Nat.floor_eq_zero]
    calc (s * 2 ^ p : ℚ) < 2 ^ (p + 53) := (Rounded.of_canonical canonical).high
      _ ≤ 2 ^ (0 : ℤ) := zpow_le_iff.mpr (by omega)
      _ = 1 := zpow_zero 2

theorem wholeBits_of_large (large : -52 ≤ p) :
    wholeBits (encoded p s) = encoded p (s / 2 ^ (-p).toNat * 2 ^ (-p).toNat) := by
  have leading := canonical.leading (by unfold leastExponent; omega)
  have short := canonical.1
  have above : 1023 * 2 ^ 52 ≤ encoded p s := by
    unfold encoded leastExponent
    omega
  have behind : 1075 - encoded p s / 2 ^ 52 = (-p).toNat := by
    unfold encoded leastExponent
    omega
  rw [wholeBits_eq above behind]
  generalize exponent : (-p).toNat = k
  have split : 2 ^ 52 = 2 ^ k * 2 ^ (52 - k) := by
    rw [← pow_add]
    congr 1
    omega
  have divided (c : ℕ) : (c * 2 ^ 52 + s) / 2 ^ k = c * 2 ^ (52 - k) + s / 2 ^ k := by
    rw [split, mul_left_comm, Nat.mul_add_div (by positivity)]
  rw [encoded, encoded, divided, add_mul, split]
  ring

end

theorem wholeBits_le (bits : ℕ) : wholeBits bits ≤ bits := by
  unfold wholeBits
  split
  · exact Nat.zero_le bits
  · exact Nat.div_mul_le_self _ _

/-- What is left of the significand is the number, rounded down. -/
theorem whole_significand (s : ℕ) (p : ℤ) :
    ((s / 2 ^ (-p).toNat * 2 ^ (-p).toNat : ℕ) * 2 ^ p : ℚ) = ⌊(s * 2 ^ p : ℚ)⌋₊ := by
  rcases le_or_gt 0 p with whole | behind
  · obtain ⟨k, rfl⟩ : ∃ k : ℕ, p = k := ⟨p.toNat, by omega⟩
    have none : (-(k : ℤ)).toNat = 0 := by omega
    rw [none, pow_zero, Nat.div_one, mul_one, zpow_natCast]
    exact_mod_cast (Nat.floor_natCast (R := ℚ) (s * 2 ^ k)).symm
  · obtain ⟨k, rfl⟩ : ∃ k : ℕ, p = -k := ⟨(-p).toNat, by omega⟩
    have quotient : (s * 2 ^ (-k : ℤ) : ℚ) = s / (2 ^ k : ℕ) := by
      rw [zpow_neg, zpow_natCast, ← div_eq_mul_inv, Nat.cast_pow, Nat.cast_two]
    have exponent : (- -(k : ℤ)).toNat = k := by omega
    rw [quotient, Nat.floor_div_natCast, Nat.floor_natCast, exponent, zpow_neg, zpow_natCast,
      Nat.cast_mul, Nat.cast_pow, Nat.cast_two, mul_inv_cancel_right₀ (by positivity)]

theorem Canonical.whole {s : ℕ} {p : ℤ} (canonical : Canonical s p) (large : -52 ≤ p) :
    Canonical (s / 2 ^ (-p).toNat * 2 ^ (-p).toNat) p := by
  have leading := canonical.leading (by unfold leastExponent; omega)
  obtain ⟨short, least, -⟩ := canonical
  have le := Nat.div_mul_le_self s (2 ^ (-p).toNat)
  have kept : 2 ^ 52 ≤ s / 2 ^ (-p).toNat * 2 ^ (-p).toNat := by
    calc 2 ^ 52 = 2 ^ (52 - (-p).toNat) * 2 ^ (-p).toNat := by
          rw [← pow_add]
          congr 1
          omega
      _ ≤ s / 2 ^ (-p).toNat * 2 ^ (-p).toNat := by
        refine Nat.mul_le_mul_right _ ((Nat.le_div_iff_mul_le (by positivity)).mpr ?_)
        rw [← pow_add, Nat.sub_add_cancel (by omega)]
        exact leading
  exact ⟨by omega, least, by omega⟩

theorem valueOf_toFloat_wholeBits {s : ℕ} {p : ℤ} (canonical : Canonical s p)
    (finite : encoded p s < infinityBits) (negative : Bool) :
    valueOf (toFloat negative (wholeBits (encoded p s))) =
      some (if negative then -(⌊(s * 2 ^ p : ℚ)⌋₊ : ℚ) else ⌊(s * 2 ^ p : ℚ)⌋₊) := by
  rcases lt_or_ge p (-52) with small | large
  · obtain ⟨none, zero⟩ := wholeBits_of_small canonical small
    have found := valueOf_toFloat_encoded (s := 0) (p := leastExponent)
      ⟨by decide, le_rfl, fun _ => rfl⟩ (by decide) negative
    have code : encoded leastExponent 0 = 0 := by decide
    rw [code] at found
    rw [none, zero, found, fractionOf]
    simp
  · have le := wholeBits_le (encoded p s)
    rw [wholeBits_of_large canonical large] at le ⊢
    rw [valueOf_toFloat_encoded (canonical.whole large) (lt_of_le_of_lt le finite), fractionOf,
      whole_significand]

def truncated (q : ℚ) : ℤ :=
  if q < 0 then ⌈q⌉ else ⌊q⌋

theorem truncated_of_nonneg {q : ℚ} (above : 0 ≤ q) : truncated q = ⌊q⌋ :=
  if_neg above.not_gt

theorem truncated_of_nonpos {q : ℚ} (below : q ≤ 0) : truncated q = ⌈q⌉ := by
  rcases below.eq_or_lt with rfl | neg
  · rw [truncated_of_nonneg le_rfl, Int.floor_zero, Int.ceil_zero]
  · exact if_pos neg

theorem floor_le_truncated (q : ℚ) : ⌊q⌋ ≤ truncated q := by
  unfold truncated
  split
  · exact Int.floor_le_ceil q
  · exact le_rfl

theorem truncated_eq_iff {q : ℚ} : q = truncated q ↔ ∃ n : ℤ, q = n := by
  refine ⟨fun whole => ⟨_, whole⟩, ?_⟩
  rintro ⟨n, rfl⟩
  rcases le_total 0 (n : ℚ) with above | below
  · rw [truncated_of_nonneg above, Int.floor_intCast]
  · rw [truncated_of_nonpos below, Int.ceil_intCast]

theorem valueOf_wholePart {v : Float} {q : ℚ} (found : valueOf v = some q) :
    valueOf (wholePart v) = some (truncated q : ℚ) := by
  obtain ⟨negative, s, p, composed, rfl⟩ := exists_composed found
  have above : (0 : ℚ) ≤ s * 2 ^ p := by positivity
  have floor := natCast_floor_eq_intCast_floor above
  rw [wholePart, composed.sign, composed.magnitude,
    valueOf_toFloat_wholeBits composed.canonical composed.finite, floor]
  cases negative with
  | false => rw [fractionOf, if_neg Bool.false_ne_true, if_neg Bool.false_ne_true,
      truncated_of_nonneg above]
  | true => rw [fractionOf, if_pos rfl, if_pos rfl, truncated_of_nonpos (neg_nonpos.mpr above),
      Int.ceil_neg, Int.cast_neg]

theorem wholePart_eq_of_large {v : Float} (large : 1075 * 2 ^ 52 ≤ v.toBits.toNat % 2 ^ 63) :
    wholePart v = v := by
  have small := v.toBits.toNat_lt
  have same : wholeBits (v.toBits.toNat % 2 ^ 63) = v.toBits.toNat % 2 ^ 63 := by
    rw [wholeBits_eq (k := 0) (by omega) (by omega), pow_zero, Nat.div_one, mul_one]
  have bits : (if decide (2 ^ 63 ≤ v.toBits.toNat) = true then 2 ^ 63 + v.toBits.toNat % 2 ^ 63
      else v.toBits.toNat % 2 ^ 63) = v.toBits.toNat := by
    split <;> rename_i sign <;> rw [decide_eq_true_iff] at sign <;> omega
  show toFloat (decide (2 ^ 63 ≤ v.toBits.toNat)) (wholeBits (v.toBits.toNat % 2 ^ 63)) = v
  rw [same, toFloat, bits, UInt64.ofNat_toNat, ofBits_toBits]

theorem wholePart_of_valueOf_eq_none {v : Float} (found : valueOf v = none) : wholePart v = v := by
  refine wholePart_eq_of_large ?_
  by_contra small
  have finite : v.toBits.toNat % 2 ^ 63 < infinityBits := by
    unfold infinityBits
    omega
  unfold valueOf of ofBits at found
  rcases Nat.lt_or_ge (v.toBits.toNat % 2 ^ 63) (2 ^ 52) with short | leading
  · rw [ofMagnitudeBits, if_pos short] at found
    cases found
  · rw [ofMagnitudeBits_of_exponent leading finite] at found
    cases found

theorem exists_multiple_of_le {l p : ℤ} (le : l ≤ p) (negative : Bool) (s : ℕ) :
    ∃ n : ℤ, fractionOf negative s p = n * 2 ^ l := by
  obtain ⟨k, rfl⟩ : ∃ k : ℕ, p = l + k := ⟨(p - l).toNat, by omega⟩
  refine ⟨if negative then -(s * 2 ^ k) else s * 2 ^ k, ?_⟩
  rw [fractionOf, zpow_add₀ two_ne_zero, zpow_natCast]
  cases negative <;> simp <;> ring

theorem exists_multiple {v : Float} {q : ℚ} (found : valueOf v = some q) :
    ∃ n : ℤ, q = n * 2 ^ leastExponent := by
  obtain ⟨negative, s, p, composed, rfl⟩ := exists_composed found
  exact exists_multiple_of_le composed.canonical.2.1 negative s

theorem nearestRank_least : nearestRank (2 ^ leastExponent) = 1 := by
  have rounded : Rounded ((1 : ℕ) * 2 ^ leastExponent) leastExponent 1 :=
    .of_canonical (by unfold Canonical leastExponent; omega)
  rw [Nat.cast_one, one_mul] at rounded
  rw [rounded.nearestRank_eq]
  decide

theorem nearestRank_pos {n : ℤ} (pos : 0 < n) : 0 < nearestRank (n * 2 ^ leastExponent) := by
  have le : (2 : ℚ) ^ leastExponent ≤ n * 2 ^ leastExponent := by
    have one : (1 : ℚ) ≤ n := by exact_mod_cast pos
    exact le_mul_of_one_le_left (by positivity) one
  have ranks := nearestRank_mono le
  rw [nearestRank_least] at ranks
  omega

theorem nearestRank_eq_zero_iff (n : ℤ) : nearestRank (n * 2 ^ leastExponent) = 0 ↔ n = 0 := by
  constructor
  · intro zero
    rcases lt_trichotomy n 0 with neg | rfl | pos
    · have positive := nearestRank_pos (neg_pos.mpr neg)
      rw [Int.cast_neg, neg_mul, nearestRank_neg, zero] at positive
      exact absurd positive (by decide)
    · rfl
    · exact absurd zero (nearestRank_pos pos).ne'
  · rintro rfl
    rw [Int.cast_zero, zero_mul, nearestRank_zero]

/-- The difference of two floats is zero only if they are equal: what is left of it is not lost. -/
theorem sub_beq_zero_iff {v w : Float} {p q : ℚ} (vValue : valueOf v = some p)
    (wValue : valueOf w = some q) : (v - w == 0.0) = true ↔ p = q := by
  obtain ⟨n, rfl⟩ := exists_multiple vValue
  obtain ⟨k, rfl⟩ := exists_multiple wValue
  have rounds := rounds_parts_sub vValue wValue
  rw [← sub_mul, ← Int.cast_sub] at rounds
  have step : (2 : ℚ) ^ leastExponent ≠ 0 := by positivity
  rw [rounds.beq_iff (rounds_of_valueOf valueOf_zero), nearestRank_zero, nearestRank_eq_zero_iff,
    sub_eq_zero, mul_left_inj' step, Int.cast_inj]

theorem fraction_beq_zero_iff {v : Float} {q : ℚ} (found : valueOf v = some q) :
    (fraction v == 0.0) = true ↔ ∃ n : ℤ, q = n := by
  rw [fraction, sub_beq_zero_iff found (valueOf_wholePart found), truncated_eq_iff]

theorem exists_valueOf_neg {v : Float} {q : ℚ} (found : valueOf v = some q) :
    ∃ w, valueOf w = some (-q) := by
  obtain ⟨negative, s, p, composed, rfl⟩ := exists_composed found
  refine ⟨toFloat (!negative) (encoded p s), ?_⟩
  rw [valueOf_toFloat_encoded composed.canonical composed.finite]
  cases negative <;> simp [fractionOf]

theorem exists_valueOf_intCast {n : ℤ} (small : n.natAbs < 2 ^ 53) :
    ∃ w, valueOf w = some (n : ℚ) := by
  have found := valueOf_ofNat small
  rcases Int.natAbs_eq n with eq | eq
  · exact ⟨_, by rw [found, eq]; simp⟩
  · obtain ⟨w, opposite⟩ := exists_valueOf_neg found
    exact ⟨w, by rw [opposite, eq]; simp⟩

theorem valueOf_one : valueOf 1.0 = some 1 := by
  have one : of 1.0 = .finite false (2 ^ 52) (-52) := by decide +kernel
  norm_num [valueOf, one, value]

theorem abs_lt_of_not_whole {v : Float} {q : ℚ} (found : valueOf v = some q)
    (broken : ¬ ∃ n : ℤ, q = n) : |q| < 2 ^ 52 := by
  obtain ⟨negative, s, p, composed, rfl⟩ := exists_composed found
  have behind : p < 0 := by
    by_contra whole
    obtain ⟨n, multiple⟩ := exists_multiple_of_le (not_lt.mp whole) negative s
    exact broken ⟨n, by rw [multiple, zpow_zero, mul_one]⟩
  have magnitude : |fractionOf negative s p| = s * 2 ^ p := by
    have above : (0 : ℚ) ≤ s * 2 ^ p := by positivity
    cases negative <;> simp [fractionOf]
  calc |fractionOf negative s p| = s * 2 ^ p := magnitude
    _ < 2 ^ (p + 53) := (Rounded.of_canonical composed.canonical).high
    _ ≤ 2 ^ (52 : ℤ) := zpow_le_iff.mpr (by omega)
    _ = 2 ^ 52 := by norm_cast

theorem ceil_eq_floor_add_one {q : ℚ} (broken : ¬ ∃ n : ℤ, q = n) : ⌈q⌉ = ⌊q⌋ + 1 := by
  have lt : (⌊q⌋ : ℚ) < q := lt_of_le_of_ne (Int.floor_le q) fun whole => broken ⟨_, whole.symm⟩
  rw [Int.ceil_eq_iff]
  push_cast
  exact ⟨by rwa [add_sub_cancel_right], (Int.lt_floor_add_one q).le⟩

theorem valueOf_roundedDown_of_finite {v : Float} {q : ℚ} (found : valueOf v = some q) :
    valueOf (roundedDown v) = some (⌊q⌋ : ℚ) := by
  have whole := valueOf_wholePart found
  unfold roundedDown
  split <;> rename_i above <;> rw [lt_iff_valueOf_lt found whole] at above
  -- The number below is whole too, and small enough for a float.
  · have negative : q < 0 := by
      by_contra positive
      rw [truncated_of_nonneg (not_lt.mp positive)] at above
      exact above.not_ge (Int.floor_le q)
    have broken : ¬ ∃ n : ℤ, q = n := fun whole => above.ne (truncated_eq_iff.mpr whole)
    have small := (abs_lt.mp (abs_lt_of_not_whole found broken)).1
    have low : -2 ^ 52 ≤ ⌊q⌋ := Int.le_floor.mpr (by push_cast; exact small.le)
    have high : ⌊q⌋ < 0 := Int.floor_lt.mpr (by exact_mod_cast negative)
    obtain ⟨w, exact⟩ := exists_valueOf_intCast (n := ⌊q⌋) (by omega)
    have rounds := rounds_parts_sub whole valueOf_one
    rw [truncated_of_nonpos negative.le, ceil_eq_floor_add_one broken, Int.cast_add, Int.cast_one,
      add_sub_cancel_right] at rounds
    exact rounds.valueOf_eq exact
  · have same : truncated q = ⌊q⌋ :=
      le_antisymm (Int.le_floor.mpr (not_lt.mp above)) (floor_le_truncated q)
    rw [whole, same]

theorem not_lt_self_of_valueOf_eq_none {v : Float} (found : valueOf v = none) : ¬ v < v := by
  rw [lt_iff_compare]
  rw [valueOf, of_eq_ofUnpacked] at found
  cases eq : parts v with
  | notANumber => exact Bool.false_ne_true
  | infinity s => cases s <;> exact Bool.false_ne_true
  | zero | finite => rw [eq] at found; cases found

theorem valueOf_roundedDown_eq_none {v : Float} (found : valueOf v = none) :
    valueOf (roundedDown v) = none := by
  rw [roundedDown, wholePart_of_valueOf_eq_none found,
    if_neg (not_lt_self_of_valueOf_eq_none found), found]

theorem valueOf_roundedDown (v : Float) :
    valueOf (roundedDown v) = (valueOf v).map fun q => (⌊q⌋ : ℚ) := by
  cases found : valueOf v with
  | none => exact valueOf_roundedDown_eq_none found
  | some q => exact valueOf_roundedDown_of_finite found

end SurfaceLang.Binary64
