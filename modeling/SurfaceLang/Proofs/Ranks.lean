import SurfaceLang.Proofs.Rounding
import SurfaceLang.Proofs.WholeNumbers

namespace SurfaceLang.Binary64

open Float.Model (Format UnpackedFloat)
open Float.Model.UnpackedFloat

def rank : UnpackedFloat → ℤ
  | .notANumber => 0
  | .infinity s => s.apply infinityBits
  | .zero _ => 0
  | .finite s m e _ => s.apply (encoded e m)

/-- What is stored: a canonical significand, and an exponent that is not too large for it. -/
def IsStored : UnpackedFloat → Prop
  | .finite _ m e _ => Canonical m e ∧ encoded e m < infinityBits
  | _ => True

theorem isStored_parts (v : Float) : IsStored (parts v) := by
  have same := of_eq_ofUnpacked v
  cases eq : parts v with
  | finite s m e pos =>
    rw [eq] at same
    obtain ⟨-, canonical, bits, small⟩ := canonical_of_ofMagnitudeBits same
    exact ⟨canonical, lt_of_eq_of_lt bits.symm small⟩
  | infinity | notANumber | zero => exact trivial

theorem encoded_pos {m : ℕ} (e : ℤ) (pos : 0 < m) : 0 < encoded e m :=
  Nat.add_pos_right _ pos

theorem encoded_lt_of_exponent_lt {m k : ℕ} {e f : ℤ} (left : Canonical m e)
    (right : Canonical k f) (lt : e < f) : encoded e m < encoded f k := by
  obtain ⟨small, least, _⟩ := left
  have leading := right.leading (by omega)
  have later : (e - leastExponent).toNat + 1 ≤ (f - leastExponent).toNat := by omega
  unfold encoded
  omega

theorem compare_encoded {m k : ℕ} {e f : ℤ} (left : Canonical m e) (right : Canonical k f) :
    (compare e f).then (compare m k) = compare (encoded e m : ℤ) (encoded f k) := by
  rcases lt_trichotomy e f with lt | rfl | gt
  · have codes := encoded_lt_of_exponent_lt left right lt
    rw [compare_lt_iff_lt.mpr lt, compare_lt_iff_lt.mpr (Int.ofNat_lt.mpr codes)]
    rfl
  · have shifted : StrictMono fun m : ℕ => (encoded e m : ℤ) := fun m k lt => by
      show (encoded e m : ℤ) < encoded e k
      unfold encoded
      omega
    have same : compare (encoded e m : ℤ) (encoded e k) = compare m k := by
      rw [← cmp_eq_compare, ← cmp_eq_compare]
      exact shifted.cmp_map_eq m k
    rw [same, compare_eq_iff_eq.mpr rfl]
    rfl
  · have codes := encoded_lt_of_exponent_lt right left gt
    rw [compare_gt_iff_gt.mpr gt, compare_gt_iff_gt.mpr (Int.ofNat_lt.mpr codes)]
    rfl

theorem compare_eq_of_lt {u w : UnpackedFloat} (less : u.compare w = some .lt)
    (lt : rank u < rank w) : u.compare w = some (compare (rank u) (rank w)) := by
  rw [less, compare_lt_iff_lt.mpr lt]

theorem compare_eq_of_gt {u w : UnpackedFloat} (greater : u.compare w = some .gt)
    (gt : rank w < rank u) : u.compare w = some (compare (rank u) (rank w)) := by
  rw [greater, compare_gt_iff_gt.mpr gt]

theorem infinityBits_pos : (0 : ℤ) < infinityBits := by
  decide

theorem rank_bounds {s : Sign} {m : ℕ} {e : ℤ} {pos : 0 < m}
    (stored : IsStored (.finite s m e pos)) :
    -(infinityBits : ℤ) < rank (.finite s m e pos) ∧ rank (.finite s m e pos) < infinityBits := by
  have small : (encoded e m : ℤ) < infinityBits := by exact_mod_cast stored.2
  cases s <;> simp only [rank, Sign.apply] <;> omega

theorem compare_infinity_left (s : Sign) {w : UnpackedFloat} (wStored : IsStored w)
    (wNumber : w ≠ .notANumber) :
    (UnpackedFloat.infinity s).compare w = some (compare (rank (.infinity s)) (rank w)) := by
  cases w with
  | notANumber => exact absurd rfl wNumber
  | infinity t => cases s <;> cases t <;> rfl
  | zero t =>
    cases s with
    | positive => exact compare_eq_of_gt rfl infinityBits_pos
    | negative => exact compare_eq_of_lt rfl (neg_neg_of_pos infinityBits_pos)
  | finite t k f pos =>
    obtain ⟨low, high⟩ := rank_bounds wStored
    cases s with
    | positive => exact compare_eq_of_gt rfl high
    | negative => exact compare_eq_of_lt rfl low

theorem compare_infinity_right {u : UnpackedFloat} (uStored : IsStored u)
    (uNumber : u ≠ .notANumber) (t : Sign) :
    u.compare (.infinity t) = some (compare (rank u) (rank (.infinity t))) := by
  cases u with
  | notANumber => exact absurd rfl uNumber
  | infinity s => exact compare_infinity_left s trivial UnpackedFloat.noConfusion
  | zero s =>
    cases t with
    | positive => exact compare_eq_of_lt rfl infinityBits_pos
    | negative => exact compare_eq_of_gt rfl (neg_neg_of_pos infinityBits_pos)
  | finite s m e pos =>
    obtain ⟨low, high⟩ := rank_bounds uStored
    cases t with
    | positive => exact compare_eq_of_lt (by cases s <;> rfl) high
    | negative => exact compare_eq_of_gt (by cases s <;> rfl) low

theorem rank_finite_pos {m : ℕ} {e : ℤ} (pos : 0 < m) : 0 < rank (.finite .positive m e pos) :=
  Int.ofNat_lt.mpr (encoded_pos e pos)

theorem rank_finite_neg {m : ℕ} {e : ℤ} (pos : 0 < m) : rank (.finite .negative m e pos) < 0 :=
  neg_neg_of_pos (rank_finite_pos pos)

theorem compare_eq_compare_rank {u w : UnpackedFloat} (uStored : IsStored u) (wStored : IsStored w)
    (uNumber : u ≠ .notANumber) (wNumber : w ≠ .notANumber) :
    u.compare w = some (compare (rank u) (rank w)) := by
  cases u with
  | notANumber => exact absurd rfl uNumber
  | infinity s => exact compare_infinity_left s wStored wNumber
  | zero s =>
    cases w with
    | notANumber => exact absurd rfl wNumber
    | infinity t => exact compare_infinity_right uStored uNumber t
    | zero t => exact congrArg some (compare_eq_iff_eq.mpr rfl).symm
    | finite t k f pos =>
      cases t with
      | positive => exact compare_eq_of_lt rfl (rank_finite_pos pos)
      | negative => exact compare_eq_of_gt rfl (rank_finite_neg pos)
  | finite s m e pos =>
    cases w with
    | notANumber => exact absurd rfl wNumber
    | infinity t => exact compare_infinity_right uStored uNumber t
    | zero t =>
      cases s with
      | positive => exact compare_eq_of_gt rfl (rank_finite_pos pos)
      | negative => exact compare_eq_of_lt rfl (rank_finite_neg pos)
    | finite t k f pos' =>
      have codes := compare_encoded uStored.1 wStored.1
      cases s with
      | positive =>
        cases t with
        | positive => exact congrArg some codes
        | negative => exact compare_eq_of_gt rfl ((rank_finite_neg pos').trans (rank_finite_pos pos))
      | negative =>
        cases t with
        | positive => exact compare_eq_of_lt rfl ((rank_finite_neg pos).trans (rank_finite_pos pos'))
        | negative =>
          simp only [rank, Sign.apply]
          rw [compare_neg, ← codes]
          rfl

theorem le_iff_rank_le {v w : Float} (vNumber : parts v ≠ .notANumber)
    (wNumber : parts w ≠ .notANumber) : v ≤ w ↔ rank (parts v) ≤ rank (parts w) := by
  rw [le_iff_compare, compare_eq_compare_rank (isStored_parts v) (isStored_parts w) vNumber wNumber,
    ← compare_le_iff_le, Option.any_some, Ordering.isLE_iff_ne_gt]

theorem rank_le_infinityBits {u : UnpackedFloat} (isStored : IsStored u) :
    rank u ≤ infinityBits := by
  cases u with
  | notANumber | zero => exact infinityBits_pos.le
  | infinity s => cases s <;> decide
  | finite s m e pos => exact (rank_bounds isStored).2.le

theorem le_of_infinite {v w : Float} (number : parts v ≠ .notANumber)
    (infinite : parts w = .infinity .positive) : v ≤ w := by
  have number' : parts w ≠ .notANumber := by
    rw [infinite]
    exact UnpackedFloat.noConfusion
  rw [le_iff_rank_le number number', infinite]
  exact rank_le_infinityBits (isStored_parts v)

theorem unpack_pack_subnormal (s : Sign) {m : ℕ} (pos : 0 < m) (small : m < 2 ^ 52) :
    unpack Format.binary64 (pack Format.binary64 (.finite s m leastExponent pos)) =
      .finite s m leastExponent pos := by
  have sign : Sign.ofBitVec s.toBitVec = s := by cases s <;> rfl
  have mantissa : (BitVec.ofNat 52 m).toNat = m := by
    rw [BitVec.toNat_ofNat, Nat.mod_eq_of_lt small]
  have some : BitVec.ofNat 52 m ≠ 0#_ := by
    intro eq
    have zero : (BitVec.ofNat 52 m).toNat = 0 := by rw [eq]; rfl
    omega
  have packed : pack Format.binary64 (.finite s m leastExponent pos) =
      packComponents Format.binary64 s 0#_ (BitVec.ofNat _ m) := pack_subnormal pos small
  rw [packed, unpack]
  simp only [unpackMantissa_packComponents, unpackExponent_packComponents,
    unpackSign_packComponents, sign]
  rw [if_neg (by decide), if_pos trivial, dif_neg some]
  simp only [mantissa]
  rfl

theorem pack_of_large (s : Sign) {m : ℕ} {e : ℤ} (pos : 0 < m) (large : 972 ≤ e) :
    pack Format.binary64 (.finite s m e pos) = pack Format.binary64 (.infinity s) := by
  have biased : 2 ^ 11 ≤ (e + (1023 : ℕ) + (52 : ℕ)).toNat + 1 := by omega
  rw [pack]
  exact if_pos biased

theorem unpack_pack_cases (s : Sign) {m : ℕ} {e : ℤ} (pos : 0 < m) (canonical : Canonical m e) :
    (encoded e m < infinityBits ∧
      unpack Format.binary64 (pack Format.binary64 (.finite s m e pos)) = .finite s m e pos) ∨
    (infinityBits ≤ encoded e m ∧
      unpack Format.binary64 (pack Format.binary64 (.finite s m e pos)) = .infinity s) := by
  obtain ⟨small, least, subnormal⟩ := canonical
  unfold encoded infinityBits
  rcases Nat.lt_or_ge m (2 ^ 52) with short | leading
  · obtain rfl := subnormal short
    exact .inl ⟨by omega, unpack_pack_subnormal s pos short⟩
  rcases lt_or_ge e 972 with fits | large
  · refine .inl ⟨?_, Normal.unpack_pack ⟨leading, small, least, fits⟩ s⟩
    unfold leastExponent at *
    omega
  · refine .inr ⟨?_, ?_⟩
    · unfold leastExponent at *
      omega
    · rw [pack_of_large s pos large]
      cases s <;> rfl

/-- The rank that a fraction has when it is rounded. -/
def nearestRank (x : ℚ) : ℤ :=
  if 0 ≤ x then nearestBits x.num.natAbs x.den else -nearestBits x.num.natAbs x.den

theorem natAbs_num_div_den {x : ℚ} (above : 0 ≤ x) : ((x.num.natAbs : ℕ) / x.den : ℚ) = x := by
  have num : ((x.num.natAbs : ℕ) : ℤ) = x.num := Int.natAbs_of_nonneg (Rat.num_nonneg.mpr above)
  calc ((x.num.natAbs : ℕ) / x.den : ℚ) = x.num / x.den := by
        rw [← Int.cast_natCast, num]
    _ = x := x.num_div_den

theorem exists_rounded {x : ℚ} (above : 0 ≤ x) : ∃ e s, Rounded x e s := by
  rcases above.eq_or_lt with rfl | pos
  · exact ⟨_, _, .zero⟩
  · have numPos : 0 < x.num.natAbs := Int.natAbs_pos.mpr (Rat.num_pos.mpr pos).ne'
    have rounded := Rounded.of_exponentAt numPos x.den_pos
    rw [natAbs_num_div_den above] at rounded
    exact ⟨_, _, rounded⟩

theorem Rounded.nearestRank_eq {x : ℚ} {e : ℤ} {s : ℕ} (rounded : Rounded x e s) :
    nearestRank x = (min (encoded e s) infinityBits : ℕ) := by
  have above := rounded.nonneg
  rw [← natAbs_num_div_den above] at rounded
  rw [nearestRank, if_pos above, nearestBits_of_rounded x.den_pos rounded]

theorem nearestRank_zero : nearestRank 0 = 0 := by
  decide

theorem nearestRank_neg (x : ℚ) : nearestRank (-x) = -nearestRank x := by
  rcases lt_trichotomy x 0 with neg | rfl | pos
  · rw [nearestRank, nearestRank, if_pos (neg_nonneg.mpr neg.le), if_neg neg.not_ge, neg_neg,
      Rat.neg_num, Rat.neg_den, Int.natAbs_neg]
  · rw [neg_zero, nearestRank_zero, neg_zero]
  · rw [nearestRank, nearestRank, if_pos pos.le, if_neg (neg_lt_zero.mpr pos).not_ge,
      Rat.neg_num, Rat.neg_den, Int.natAbs_neg]

theorem nearestRank_mono_of_nonneg {x y : ℚ} (above : 0 ≤ x) (le : x ≤ y) :
    nearestRank x ≤ nearestRank y := by
  obtain ⟨e, s, rounded⟩ := exists_rounded above
  obtain ⟨f, t, rounded'⟩ := exists_rounded (above.trans le)
  have codes := rounded.encoded_mono rounded' le
  rw [rounded.nearestRank_eq, rounded'.nearestRank_eq]
  exact_mod_cast min_le_min_right infinityBits codes

theorem nearestRank_nonneg {x : ℚ} (above : 0 ≤ x) : 0 ≤ nearestRank x := by
  rw [← nearestRank_zero]
  exact nearestRank_mono_of_nonneg le_rfl above

theorem nearestRank_mono {x y : ℚ} (le : x ≤ y) : nearestRank x ≤ nearestRank y := by
  rcases le_total 0 x with above | below
  · exact nearestRank_mono_of_nonneg above le
  rcases le_total 0 y with above' | below'
  · have negative := nearestRank_nonneg (neg_nonneg.mpr below)
    have positive := nearestRank_nonneg above'
    rw [nearestRank_neg] at negative
    omega
  · have turned := nearestRank_mono_of_nonneg (neg_nonneg.mpr below') (neg_le_neg le)
    rw [nearestRank_neg, nearestRank_neg] at turned
    omega

theorem magnitude_le_of_encoded_le {x : ℚ} {m s : ℕ} {e f : ℤ} (canonical : Canonical m e)
    (rounded : Rounded x f s) (le : encoded e m ≤ encoded f s) : (m : ℚ) * 2 ^ e ≤ s * 2 ^ f := by
  have least := canonical.2.1
  have least' := rounded.least
  have bound := rounded.le
  unfold encoded at le
  rcases lt_trichotomy e f with lt | rfl | gt
  · exact (magnitude_lt_of_exponent_lt canonical.1 (rounded.ge (by omega)) lt).le
  · have significands : m ≤ s := by omega
    gcongr
  -- Only the significand `2 ^ 53` makes up for an exponent, and just for one.
  · have leading := canonical.leading (by omega)
    have small := canonical.1
    obtain rfl : e = f + 1 := by omega
    obtain rfl : s = 2 ^ 53 := by omega
    obtain rfl : m = 2 ^ 52 := by omega
    rw [zpow_add_one₀ two_ne_zero]
    push_cast
    linarith

section

variable {n : ℕ} {k : ℤ} (least : leastExponent ≤ k)

include least

theorem Rounded.le_of_multiple {e : ℤ} {s : ℕ} (rounded : Rounded (n * 2 ^ k) e s) :
    (s : ℚ) * 2 ^ e ≤ n * 2 ^ k * (1 + 1 / 2 ^ 53) := by
  have above := rounded.nonneg
  rcases rounded.least.eq_or_lt with rfl | lt
  · obtain ⟨j, rfl⟩ : ∃ j : ℕ, k = leastExponent + j := ⟨(k - leastExponent).toNat, by omega⟩
    have whole : (n * 2 ^ (leastExponent + j) / 2 ^ leastExponent : ℚ) = (n * 2 ^ j : ℕ) := by
      rw [zpow_add₀ two_ne_zero, zpow_natCast]
      push_cast
      field_simp
    have nearest := rounded.nearest
    rw [whole] at nearest
    rw [nearest.eq (isNearest_natCast _), ← whole, div_mul_cancel₀ _ (by positivity)]
    linarith
  · have low := rounded.low lt
    have nearest := rounded.nearest.low
    rw [le_div_iff₀ (by positivity), sub_mul] at nearest
    rw [zpow_add₀ two_ne_zero] at low
    norm_num at low ⊢
    linarith

theorem le_of_rank_le {v : Float} {p : ℚ} (value : valueOf v = some p)
    (le : rank (parts v) ≤ nearestRank (n * 2 ^ k)) : p ≤ n * 2 ^ k * (1 + 1 / 2 ^ 53) := by
  have above : (0 : ℚ) ≤ n * 2 ^ k := by positivity
  obtain ⟨e, s, rounded⟩ := exists_rounded above
  have canonical := isCanonical_parts v
  have denotes := denotes_of_valueOf value
  rw [rounded.nearestRank_eq] at le
  generalize parts v = u at denotes canonical le
  cases denotes with
  | zero => positivity
  | @positive m f pos =>
    have codes : encoded f m ≤ min (encoded e s) infinityBits := Int.ofNat_le.mp le
    exact (magnitude_le_of_encoded_le canonical rounded (codes.trans (Nat.min_le_left _ _))).trans
      (rounded.le_of_multiple least)
  | @negative m f pos =>
    have below := neg_magnitude_neg f pos
    have error : (0 : ℚ) ≤ n * 2 ^ k * (1 + 1 / 2 ^ 53) := by positivity
    linarith

end

end SurfaceLang.Binary64
