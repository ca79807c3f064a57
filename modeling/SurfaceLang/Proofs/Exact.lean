import SurfaceLang.Proofs.FloatBits
import SurfaceLang.Proofs.Nearest

namespace SurfaceLang.Binary64

open Float.Model (Format UnpackedFloat)
open Float.Model.UnpackedFloat

def isNegative : Sign → Bool
  | .negative => true
  | .positive => false

def ofUnpacked : UnpackedFloat → Binary64
  | .notANumber => .nan
  | .infinity s => .infinite (isNegative s)
  | .zero s => .finite (isNegative s) 0 leastExponent
  | .finite s m e _ => .finite (isNegative s) m e

theorem toNat_unpackSign (b : BitVec Format.binary64.numBits) :
    (unpackSign b).toNat = b.toNat / 2 ^ 63 := by
  have small : b.toNat < 2 ^ 64 := b.isLt
  simp [unpackSign, Nat.shiftRight_eq_div_pow]
  omega

theorem isNegative_ofBitVec (b : BitVec Format.binary64.numBits) :
    isNegative (Sign.ofBitVec (unpackSign b)) = decide (2 ^ 63 ≤ b.toNat) := by
  have small : b.toNat < 2 ^ 64 := b.isLt
  have sign := toNat_unpackSign b
  unfold Sign.ofBitVec
  split <;> rename_i eq
  · rw [eq] at sign
    simp [isNegative] at sign ⊢
    omega
  · have one : (unpackSign b).toNat ≠ 0 := fun zero => eq (BitVec.eq_of_toNat_eq zero)
    simp [isNegative]
    omega

theorem ofMagnitudeBits_of_exponent {bits : Nat} (low : 2 ^ 52 ≤ bits) (high : bits < infinityBits)
    (negative : Bool) :
    ofMagnitudeBits negative bits = .finite negative (2 ^ 52 + bits % 2 ^ 52)
      (leastExponent + (bits / 2 ^ 52 - 1 : Nat)) := by
  rw [ofMagnitudeBits, if_neg (Nat.not_lt.mpr low), if_pos high]

theorem ofMagnitudeBits_of_infinityBits_lt {bits : Nat} (beyond : infinityBits < bits)
    (negative : Bool) : ofMagnitudeBits negative bits = .nan := by
  have large : ¬ bits < 2 ^ 52 ∧ ¬ bits < infinityBits ∧ bits ≠ infinityBits := by
    unfold infinityBits at *
    omega
  rw [ofMagnitudeBits, if_neg large.1, if_neg large.2.1, if_neg large.2.2]

theorem ofBits_toNat (b : BitVec Format.binary64.numBits) :
    ofBits b.toNat = ofUnpacked (unpack Format.binary64 b) := by
  have sign := isNegative_ofBitVec b
  have mantissa := toNat_unpackMantissa b
  have exponent := toNat_unpackExponent b
  have small : b.toNat < 2 ^ 64 := b.isLt
  unfold ofBits
  rw [← sign]
  unfold unpack
  dsimp only
  split <;> rename_i ones
  · have largest : (unpackExponent b).toNat = 2047 := congrArg BitVec.toNat ones
    split <;> rename_i payload
    · have none : (unpackMantissa b).toNat = 0 := congrArg BitVec.toNat payload
      have bits : b.toNat % 2 ^ 63 = infinityBits := by
        unfold infinityBits
        omega
      rw [bits]
      rfl
    · have some : (unpackMantissa b).toNat ≠ 0 := fun eq => payload (BitVec.eq_of_toNat_eq eq)
      refine ofMagnitudeBits_of_infinityBits_lt ?_ _
      unfold infinityBits
      omega
  · have notLargest : (unpackExponent b).toNat ≠ 2047 := fun eq => ones (BitVec.eq_of_toNat_eq eq)
    split <;> rename_i least
    · have zero : (unpackExponent b).toNat = 0 := congrArg BitVec.toNat least
      have bits : b.toNat % 2 ^ 63 = (unpackMantissa b).toNat := by omega
      have short : (unpackMantissa b).toNat < 2 ^ 52 := (unpackMantissa b).isLt
      rw [bits, ofMagnitudeBits, if_pos short]
      split <;> rename_i none
      · rw [none]
        rfl
      · simp only [ofUnpacked, zero]
        rfl
    · have positive : (unpackExponent b).toNat ≠ 0 := fun eq => least (BitVec.eq_of_toNat_eq eq)
      have low : 2 ^ 52 ≤ b.toNat % 2 ^ 63 := by omega
      have high : b.toNat % 2 ^ 63 < infinityBits := by
        unfold infinityBits
        omega
      rw [ofMagnitudeBits_of_exponent low high, ofUnpacked, toNat_leading_append, mantissa]
      congr 1
      · omega
      · show leastExponent + _ = ((unpackExponent b).toNat : Int) - ((1023 : Nat) + (52 : Nat))
        unfold leastExponent
        omega

def parts (v : Float) : UnpackedFloat :=
  unpack Format.binary64 v.toBits.toBitVec

theorem of_eq_ofUnpacked (v : Float) : of v = ofUnpacked (parts v) :=
  ofBits_toNat v.toBits.toBitVec

theorem parts_of_infinite {v : Float} {negative : Bool} (infinite : of v = .infinite negative) :
    parts v = .infinity (if negative then .negative else .positive) := by
  rw [of_eq_ofUnpacked] at infinite
  cases eq : parts v with
  | infinity s =>
    rw [eq] at infinite
    cases s <;> cases infinite <;> rfl
  | notANumber | zero | finite => rw [eq] at infinite; cases infinite

def value : Binary64 → Option ℚ
  | finite negative significand exponent =>
    some (if negative then -(significand * 2 ^ exponent) else significand * 2 ^ exponent)
  | _ => none

theorem value_finite (negative : Bool) (s : ℕ) (p : ℤ) :
    (finite negative s p).value =
      some (if negative then -((s * 2 ^ p.toNat : ℕ) / (2 ^ (-p).toNat : ℕ) : ℚ)
        else (s * 2 ^ p.toNat : ℕ) / (2 ^ (-p).toNat : ℕ)) := by
  have scaled : (s : ℚ) * 2 ^ p = (s * 2 ^ p.toNat : ℕ) / (2 ^ (-p).toNat : ℕ) := by
    rw [zpow_eq_div]
    push_cast
    ring
  rw [value, scaled]

theorem isFinite_iff (b : Binary64) : b.isFinite = true ↔ ∃ q, b.value = some q := by
  cases b <;> simp [isFinite, value]

theorem div_eq_natCast_iff {num den : ℕ} (pos : 0 < den) (n : ℕ) :
    (num / den : ℚ) = n ↔ num % den = 0 ∧ num / den = n := by
  have denPos : (den : ℚ) ≠ 0 := by exact_mod_cast pos.ne'
  rw [div_eq_iff denPos]
  norm_cast
  constructor
  · rintro rfl
    exact ⟨Nat.mul_mod_left n den, Nat.mul_div_cancel n pos⟩
  · rintro ⟨whole, rfl⟩
    exact (Nat.div_mul_cancel (Nat.dvd_of_mod_eq_zero whole)).symm

theorem count?_finite (negative : Bool) (s n : ℕ) (p : ℤ) :
    (finite negative s p).count? = some n ↔ (negative = true → s = 0) ∧
      (s * 2 ^ p.toNat % 2 ^ (-p).toNat = 0 ∧ s * 2 ^ p.toNat / 2 ^ (-p).toNat = n) ∧
        n < 2 ^ 64 := by
  unfold count?
  dsimp only
  constructor
  · intro counted
    split at counted <;> rename_i whole
    · cases counted
      exact ⟨whole.1, ⟨whole.2.1, rfl⟩, whole.2.2⟩
    · cases counted
  · rintro ⟨unsigned, ⟨whole, rfl⟩, small⟩
    exact if_pos ⟨unsigned, whole, small⟩

theorem count?_eq_some_iff (b : Binary64) (n : ℕ) :
    b.count? = some n ↔ b.value = some (n : ℚ) ∧ n < 2 ^ 64 := by
  cases b with
  | nan => simp [count?, value]
  | infinite negative => simp [count?, value]
  | finite negative s p =>
    have denPos : 0 < 2 ^ (-p).toNat := by positivity
    rw [count?_finite, value_finite, Option.some.injEq, ← div_eq_natCast_iff denPos]
    cases negative with
    | false => simp
    | true =>
      constructor
      · rintro ⟨unsigned, same, small⟩
        rw [unsigned rfl] at same ⊢
        simp at same ⊢
        exact ⟨same, small⟩
      · rintro ⟨same, small⟩
        have above : (0 : ℚ) ≤ (s * 2 ^ p.toNat : ℕ) / (2 ^ (-p).toNat : ℕ) := by positivity
        have count : (0 : ℚ) ≤ n := by positivity
        simp only [if_true] at same
        have zero : ((s * 2 ^ p.toNat : ℕ) / (2 ^ (-p).toNat : ℕ) : ℚ) = 0 := by linarith
        refine ⟨fun _ => ?_, by linarith, small⟩
        simpa using zero

/-- The exact value of a float, if it is finite. -/
def valueOf (v : Float) : Option ℚ :=
  (of v).value

theorem not_not_isFinite_iff (v : Float) :
    ¬ ¬ (of v).isFinite = true ↔ ∃ q, valueOf v = some q := by
  rw [not_not, isFinite_iff, valueOf]

theorem not_isFinite_iff (v : Float) : ¬ (of v).isFinite = true ↔ valueOf v = none := by
  rw [isFinite_iff, valueOf, Option.eq_none_iff_forall_ne_some, not_exists]

theorem valueOf_zero : valueOf 0.0 = some 0 := by
  have zero : of 0.0 = .finite false 0 leastExponent := by decide +kernel
  simp [valueOf, zero, value]

theorem magnitude_pos {m : ℕ} (e : ℤ) (pos : 0 < m) : (0 : ℚ) < m * 2 ^ e := by
  positivity

theorem neg_magnitude_neg {m : ℕ} (e : ℤ) (pos : 0 < m) : -(m * 2 ^ e : ℚ) < 0 :=
  neg_neg_of_pos (magnitude_pos e pos)

theorem neg_magnitude_lt {m k : ℕ} (e f : ℤ) (pos : 0 < m) (pos' : 0 < k) :
    -(m * 2 ^ e : ℚ) < k * 2 ^ f :=
  (neg_magnitude_neg e pos).trans (magnitude_pos f pos')

theorem magnitude_lt_of_exponent_lt {m k : ℕ} {e f : ℤ} (small : m < 2 ^ 53)
    (leading : 2 ^ 52 ≤ k) (lt : e < f) : (m : ℚ) * 2 ^ e < k * 2 ^ f := by
  have below : (m : ℚ) < 2 ^ 53 := by exact_mod_cast small
  have above : (2 : ℚ) ^ 52 ≤ k := by exact_mod_cast leading
  calc (m : ℚ) * 2 ^ e < 2 ^ 53 * 2 ^ e := by gcongr
    _ = 2 ^ 52 * 2 ^ (e + 1) := by
      rw [zpow_add_one₀ two_ne_zero]
      ring
    _ ≤ 2 ^ 52 * 2 ^ f := by
      gcongr
      · norm_num
      · omega
    _ ≤ k * 2 ^ f := by gcongr

theorem compare_magnitudes {m k : ℕ} {e f : ℤ} (left : Canonical m e) (right : Canonical k f) :
    (compare e f).then (compare m k) = compare ((m : ℚ) * 2 ^ e) (k * 2 ^ f) := by
  have least := left.2.1
  have least' := right.2.1
  rcases lt_trichotomy e f with lt | rfl | gt
  · have magnitudes := magnitude_lt_of_exponent_lt left.1 (right.leading (by omega)) lt
    rw [compare_lt_iff_lt.mpr lt, compare_lt_iff_lt.mpr magnitudes]
    rfl
  · have scaled : StrictMono fun m : ℕ => (m : ℚ) * 2 ^ e := fun m k lt => by
      show (m : ℚ) * 2 ^ e < k * 2 ^ e
      gcongr
    have same : compare ((m : ℚ) * 2 ^ e) (k * 2 ^ e) = compare m k := by
      rw [← cmp_eq_compare, ← cmp_eq_compare]
      exact scaled.cmp_map_eq m k
    rw [same, compare_eq_iff_eq.mpr rfl]
    rfl
  · have magnitudes := magnitude_lt_of_exponent_lt right.1 (left.leading (by omega)) gt
    rw [compare_gt_iff_gt.mpr gt, compare_gt_iff_gt.mpr magnitudes]
    rfl

theorem compare_neg {α : Type} [AddCommGroup α] [LinearOrder α] [IsOrderedAddMonoid α] (p q : α) :
    compare (-p) (-q) = (compare p q).swap := by
  rw [← cmp_eq_compare, ← cmp_eq_compare, cmp_swap]
  have reversing : StrictAnti fun r : α => -r := fun _ _ => neg_lt_neg
  exact reversing.cmp_map_eq p q

/-- The fraction that an unpacked number is, if it is finite. -/
inductive Denotes : UnpackedFloat → ℚ → Prop where
  | zero (s : Sign) : Denotes (.zero s) 0
  | positive {m : ℕ} {e : ℤ} (pos : 0 < m) : Denotes (.finite .positive m e pos) (m * 2 ^ e)
  | negative {m : ℕ} {e : ℤ} (pos : 0 < m) : Denotes (.finite .negative m e pos) (-(m * 2 ^ e))

theorem denotes_of_value {u : UnpackedFloat} {q : ℚ} (found : (ofUnpacked u).value = some q) :
    Denotes u q := by
  cases u with
  | infinity | notANumber => cases found
  | zero s =>
    obtain rfl : 0 = q := by simpa [ofUnpacked, value] using found
    exact .zero s
  | finite s m e pos =>
    cases s with
    | positive =>
      cases found
      exact .positive pos
    | negative =>
      cases found
      exact .negative pos

theorem denotes_of_valueOf {v : Float} {q : ℚ} (found : valueOf v = some q) :
    Denotes (parts v) q := by
  rw [valueOf, of_eq_ofUnpacked] at found
  exact denotes_of_value found

/-- The significand is one that the exponent allows. -/
def IsCanonical : UnpackedFloat → Prop
  | .finite _ m e _ => Canonical m e
  | _ => True

theorem isCanonical_parts (v : Float) : IsCanonical (parts v) := by
  have same := of_eq_ofUnpacked v
  cases eq : parts v with
  | finite s m e pos =>
    rw [eq] at same
    exact (canonical_of_ofMagnitudeBits same).2.1
  | infinity | notANumber | zero => exact trivial

theorem exists_significand {v : Float} {p : ℚ} (value : valueOf v = some p) (pos : 0 < p) :
    ∃ m e, leastExponent ≤ e ∧ p = (m : ℕ) * 2 ^ e := by
  have canonical := isCanonical_parts v
  have denotes := denotes_of_valueOf value
  generalize parts v = u at canonical denotes
  cases denotes with
  | zero => exact absurd pos (lt_irrefl 0)
  | positive => exact ⟨_, _, canonical.2.1, rfl⟩
  | negative posSignificand => exact absurd pos (neg_magnitude_neg _ posSignificand).not_gt

theorem compare_eq_compare_value {u w : UnpackedFloat} {p q : ℚ} (left : IsCanonical u)
    (right : IsCanonical w) (uValue : Denotes u p) (wValue : Denotes w q) :
    u.compare w = some (compare p q) := by
  cases uValue with
  | zero s =>
    cases wValue with
    | zero t => exact congrArg some (compare_eq_iff_eq.mpr rfl).symm
    | positive pos => exact congrArg some (compare_lt_iff_lt.mpr (magnitude_pos _ pos)).symm
    | negative pos => exact congrArg some (compare_gt_iff_gt.mpr (neg_magnitude_neg _ pos)).symm
  | positive pos =>
    cases wValue with
    | zero t => exact congrArg some (compare_gt_iff_gt.mpr (magnitude_pos _ pos)).symm
    | positive => exact congrArg some (compare_magnitudes left right)
    | negative pos' =>
      exact congrArg some (compare_gt_iff_gt.mpr (neg_magnitude_lt _ _ pos' pos)).symm
  | negative pos =>
    cases wValue with
    | zero t => exact congrArg some (compare_lt_iff_lt.mpr (neg_magnitude_neg _ pos)).symm
    | positive pos' =>
      exact congrArg some (compare_lt_iff_lt.mpr (neg_magnitude_lt _ _ pos pos')).symm
    | negative =>
      rw [compare_neg, ← compare_magnitudes left right]
      rfl

theorem compare_valueOf {v w : Float} {p q : ℚ} (vValue : valueOf v = some p)
    (wValue : valueOf w = some q) : (parts v).compare (parts w) = some (compare p q) :=
  compare_eq_compare_value (isCanonical_parts v) (isCanonical_parts w) (denotes_of_valueOf vValue)
    (denotes_of_valueOf wValue)

theorem lt_iff_compare (v w : Float) :
    v < w ↔ ((parts v).compare (parts w) == some .lt) = true := by
  show decide (v.toModel < w.toModel) = true ↔ _
  rw [decide_eq_true_iff]
  exact Iff.rfl

theorem lt_iff_valueOf_lt {v w : Float} {p q : ℚ} (vValue : valueOf v = some p)
    (wValue : valueOf w = some q) : v < w ↔ p < q := by
  rw [lt_iff_compare, compare_valueOf vValue wValue, ← compare_lt_iff_lt, beq_iff_eq,
    Option.some.injEq]

theorem le_iff_compare (v w : Float) :
    v ≤ w ↔ ((parts v).compare (parts w)).any (·.isLE) = true := by
  show decide (v.toModel ≤ w.toModel) = true ↔ _
  rw [decide_eq_true_iff]
  exact Iff.rfl

theorem le_iff_valueOf_le {v w : Float} {p q : ℚ} (vValue : valueOf v = some p)
    (wValue : valueOf w = some q) : v ≤ w ↔ p ≤ q := by
  rw [le_iff_compare, compare_valueOf vValue wValue, ← compare_le_iff_le, Option.any_some,
    Ordering.isLE_iff_ne_gt]

end SurfaceLang.Binary64
