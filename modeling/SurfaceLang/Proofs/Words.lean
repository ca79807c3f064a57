import SurfaceLang.Proofs.WholeParts

namespace SurfaceLang.Binary64

open Float.Model (Format UnpackedFloat)
open Float.Model.UnpackedFloat

theorem roundToInt_eq (s : Sign) (m : ℕ) (e : ℤ) :
    roundToInt s m e = s.apply ⌊(m * 2 ^ e : ℚ)⌋₊ := by
  have shift : (0 - (e - e.toNat)).toNat = (-e).toNat := by omega
  have scaled : ((m * 2 ^ e.toNat : ℕ) / 2 ^ (-e).toNat : ℚ) = m * 2 ^ e := by
    rw [zpow_eq_div e]
    push_cast
    ring
  have represents := (represents_natCast (m * 2 ^ e.toNat)).shiftRight (-e).toNat
  rw [scaled] at represents
  have whole := (Nat.floor_eq_iff (by positivity)).mpr
    ⟨represents.le, by exact_mod_cast represents.lt⟩
  rw [whole, roundToInt, decreaseExponent]
  simp only [sub_zero, shiftToExponent, shift, Nat.shiftLeft_eq]
  rfl

theorem toInt_parts {v : Float} {q : ℚ} (found : valueOf v = some q) (least greatest : ℤ) :
    (parts v).toInt least greatest = truncated q := by
  have denotes := denotes_of_valueOf found
  generalize parts v = u at denotes
  cases denotes with
  | zero => simp [toInt, truncated]
  | @positive m e pos =>
    rw [truncated_of_nonneg (by positivity), ← Int.natCast_floor_eq_floor (by positivity)]
    exact roundToInt_eq .positive m e
  | @negative m e pos =>
    rw [truncated_of_nonpos (neg_nonpos.mpr (by positivity)), Int.ceil_neg,
      ← Int.natCast_floor_eq_floor (by positivity)]
    exact roundToInt_eq .negative m e

theorem toNat_toUInt64 {v : Float} {n : ℕ} (found : valueOf v = some (n : ℚ)) (small : n < 2 ^ 64) :
    v.toUInt64.toNat = n := by
  have whole : truncated (n : ℚ) = n := by
    rw [truncated_of_nonneg (Nat.cast_nonneg n), Int.floor_natCast]
  show (UInt64.ofNatClamp ((parts v).toInt 0 (UInt64.size - 1)).toNat).toNat = n
  rw [toInt_parts found, whole, Int.toNat_natCast, UInt64.toNat_ofNatClamp_of_lt small]

theorem isFinite_iff_valueOf (v : Float) : v.isFinite = true ↔ ∃ q, valueOf v = some q := by
  show (parts v).isFinite = true ↔ _
  rw [valueOf, of_eq_ofUnpacked]
  cases parts v <;> simp [UnpackedFloat.isFinite, ofUnpacked, value]

theorem valueOf_wordBound : valueOf wordBound = some (2 ^ 64) := by
  have bound : of wordBound = .finite false (2 ^ 52) 12 := by decide +kernel
  norm_num [valueOf, bound, value]

/-- The guards leave the whole numbers that a word can be, and no others. -/
theorem guards_iff (v : Float) :
    (v.isFinite = true ∧ ¬ v < 0.0 ∧ (fraction v == 0.0) = true ∧ ¬ wordBound ≤ v) ↔
      ∃ n : ℕ, n < 2 ^ 64 ∧ valueOf v = some (n : ℚ) := by
  rw [isFinite_iff_valueOf]
  constructor
  · rintro ⟨⟨q, found⟩, unsigned, whole, small⟩
    rw [lt_iff_valueOf_lt found valueOf_zero, not_lt] at unsigned
    rw [le_iff_valueOf_le valueOf_wordBound found, not_le] at small
    obtain ⟨k, rfl⟩ := (fraction_beq_zero_iff found).mp whole
    obtain ⟨n, rfl⟩ := Int.eq_ofNat_of_zero_le (by exact_mod_cast unsigned)
    exact ⟨n, by exact_mod_cast small, found⟩
  · rintro ⟨n, small, found⟩
    refine ⟨⟨_, found⟩, ?_, (fraction_beq_zero_iff found).mpr ⟨n, rfl⟩, ?_⟩
    · rw [lt_iff_valueOf_lt found valueOf_zero, not_lt]
      positivity
    · rw [le_iff_valueOf_le valueOf_wordBound found, not_le]
      exact_mod_cast small

theorem exactWord?_eq_some_iff_guards (v : Float) (w : UInt64) : exactWord? v = some w ↔
    (v.isFinite = true ∧ ¬ v < 0.0 ∧ (fraction v == 0.0) = true ∧ ¬ wordBound ≤ v) ∧
      v.toUInt64 = w := by
  simp only [exactWord?, bne, Option.ite_none_left_eq_some, Option.some.injEq, not_or, not_not,
    Bool.not_eq_true', Bool.not_eq_false]

theorem exactWord?_eq_some_iff (v : Float) (w : UInt64) :
    exactWord? v = some w ↔ valueOf v = some (w.toNat : ℚ) := by
  rw [exactWord?_eq_some_iff_guards, guards_iff]
  constructor
  · rintro ⟨⟨n, small, found⟩, rfl⟩
    rw [toNat_toUInt64 found small, found]
  · intro found
    refine ⟨⟨w.toNat, w.toNat_lt, found⟩, ?_⟩
    rw [← UInt64.toNat_inj, toNat_toUInt64 found w.toNat_lt]

theorem exists_word_iff (v : Float) (n : ℕ) : (∃ w, exactWord? v = some w ∧ w.toNat = n) ↔
    valueOf v = some (n : ℚ) ∧ n < 2 ^ 64 := by
  constructor
  · rintro ⟨w, exact, rfl⟩
    exact ⟨(exactWord?_eq_some_iff v w).mp exact, w.toNat_lt⟩
  · rintro ⟨found, small⟩
    have word : (UInt64.ofNat n).toNat = n := UInt64.toNat_ofNat_of_lt small
    refine ⟨.ofNat n, (exactWord?_eq_some_iff v _).mpr ?_, word⟩
    rw [word]
    exact found

theorem map_exactWord?_eq_count? (v : Float) :
    (exactWord? v).map UInt64.toNat = (of v).count? := by
  ext n
  rw [Option.map_eq_some_iff, exists_word_iff, count?_eq_some_iff, valueOf]

theorem exists_word_iff_of_int (v : Float) (n : ℤ) :
    (∃ w, exactWord? v = some w ∧ (w.toNat : ℤ) = n) ↔
      valueOf v = some (n : ℚ) ∧ 0 ≤ n ∧ n < 2 ^ 64 := by
  rcases le_or_gt 0 n with unsigned | negative
  · obtain ⟨k, rfl⟩ := Int.eq_ofNat_of_zero_le unsigned
    simp only [unsigned, true_and]
    exact_mod_cast exists_word_iff v k
  · constructor
    · rintro ⟨w, -, rfl⟩
      omega
    · rintro ⟨-, unsigned, -⟩
      omega

theorem valueOf_negative_zero : valueOf (-0.0) = some 0 := by
  have zero : of (-0.0) = .finite true 0 leastExponent := by decide +kernel
  simp [valueOf, zero, value]

/-- A float is turned into a word just if it is finite and its exact value is a whole number that a
word can be: into that number, also when it is a negative zero. Where the guards let a float pass,
the cast is exact. -/
theorem exactWord?_exact (v : Float) :
    (∀ n : ℤ, (∃ w, exactWord? v = some w ∧ (w.toNat : ℤ) = n) ↔
      v.isFinite = true ∧ valueOf v = some (n : ℚ) ∧ 0 ≤ n ∧ n < 2 ^ 64) ∧
    (exactWord? v = none ↔ ¬ ∃ n : ℤ, valueOf v = some (n : ℚ) ∧ 0 ≤ n ∧ n < 2 ^ 64) ∧
    exactWord? (-0.0) = some 0 ∧
    ∀ w, exactWord? v = some w → w = v.toUInt64 ∧ valueOf v = some (v.toUInt64.toNat : ℚ) := by
  refine ⟨fun n => ?_, ?_, ?_, fun w exact => ?_⟩
  · rw [exists_word_iff_of_int, isFinite_iff_valueOf]
    exact ⟨fun whole => ⟨⟨_, whole.1⟩, whole⟩, And.right⟩
  · simp only [← exists_word_iff_of_int, Option.eq_none_iff_forall_ne_some]
    constructor
    · rintro none ⟨n, w, exact, -⟩
      exact none w exact
    · intro none w exact
      exact none ⟨w.toNat, w, exact, rfl⟩
  · exact (exactWord?_eq_some_iff _ _).mpr valueOf_negative_zero
  · obtain ⟨-, rfl⟩ := (exactWord?_eq_some_iff_guards v w).mp exact
    exact ⟨rfl, (exactWord?_eq_some_iff v _).mp exact⟩

/-- The greatest float that is a word, and the bound that the greatest word is rounded up to. -/
example : exactWord? 18446744073709549568.0 = some 18446744073709549568 ∧
    exactWord? 18446744073709551616.0 = none := by decide +kernel

end SurfaceLang.Binary64
