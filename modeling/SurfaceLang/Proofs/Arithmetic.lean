import SurfaceLang.Proofs.Shifting

namespace SurfaceLang.Binary64

open Float.Model (Format UnpackedFloat totalExponent)
open Float.Model.UnpackedFloat

def stored (u : UnpackedFloat) : UnpackedFloat :=
  unpack Format.binary64 (pack Format.binary64 u)

def signed : Sign → ℚ → ℚ
  | .negative, x => -x
  | .positive, x => x

/-- The number is `x`, rounded; it may be infinite. -/
structure Rounds (u : UnpackedFloat) (x : ℚ) : Prop where
  number : u ≠ .notANumber
  rank_eq : rank u = nearestRank x

theorem nearestRank_signed (s : Sign) (x : ℚ) :
    nearestRank (signed s x) = s.apply (nearestRank x) := by
  cases s with
  | negative => exact nearestRank_neg x
  | positive => rfl

theorem rounds_zero (s : Sign) : Rounds (stored (.zero s)) 0 where
  number := by cases s <;> exact UnpackedFloat.noConfusion
  rank_eq := by cases s <;> rfl

theorem rounds_finite {x : ℚ} {m : ℕ} {e : ℤ} (s : Sign) (pos : 0 < m) (canonical : Canonical m e)
    (rank_eq : nearestRank x = (min (encoded e m) infinityBits : ℕ)) :
    Rounds (stored (.finite s m e pos)) (signed s x) := by
  rcases unpack_pack_cases s pos canonical with ⟨small, same⟩ | ⟨large, infinite⟩
  · refine ⟨by rw [stored, same]; exact UnpackedFloat.noConfusion, ?_⟩
    rw [stored, same, nearestRank_signed, rank_eq, Nat.min_eq_left small.le]
    rfl
  · refine ⟨by rw [stored, infinite]; exact UnpackedFloat.noConfusion, ?_⟩
    rw [stored, infinite, nearestRank_signed, rank_eq, Nat.min_eq_right large]
    rfl

theorem rounds_canonical {m : ℕ} {e : ℤ} (s : Sign) (pos : 0 < m) (canonical : Canonical m e) :
    Rounds (stored (.finite s m e pos)) (signed s (m * 2 ^ e)) :=
  rounds_finite s pos canonical (Rounded.of_canonical canonical).nearestRank_eq

theorem rounds_roundWithAccuracy {m : ℕ} {e : ℤ} {accuracy : Accuracy} {y : ℚ} (s : Sign)
    (represents : Represents (.ofMantissaAndAccuracy m accuracy) y)
    (le : e ≤ Format.binary64.targetExponent (totalExponent m e)) :
    Rounds (stored (roundWithAccuracy Format.binary64 s m e accuracy)) (signed s (y * 2 ^ e)) := by
  have rounded := rounded_of_represents represents le
  obtain ⟨m', e', shifted, canonical, codes⟩ := rounded.shift
  have rank_eq := rounded.nearestRank_eq
  rw [← codes] at rank_eq
  rw [roundWithAccuracy]
  simp only [shifted]
  split <;> rename_i none
  · rw [none] at canonical rank_eq
    have least := canonical.2.2 (by decide)
    have zero : nearestRank (y * 2 ^ e) = 0 := by
      rw [rank_eq, least]
      rfl
    refine ⟨(rounds_zero s).number, ?_⟩
    rw [(rounds_zero s).rank_eq, nearestRank_zero, nearestRank_signed, zero]
    cases s <;> rfl
  · exact rounds_finite s _ canonical rank_eq

theorem log2_shiftLeft {m : ℕ} (pos : 0 < m) (k : ℕ) : (m <<< k).log2 = m.log2 + k := by
  induction k with
  | zero => rfl
  | succ k ih =>
    have some : m <<< k ≠ 0 := by
      rw [Nat.shiftLeft_eq]
      positivity
    rw [Nat.shiftLeft_succ, Nat.log2_two_mul some, ih]
    rfl

theorem rounds_round {m : ℕ} (e : ℤ) (s : Sign) (pos : 0 < m) :
    Rounds (stored (UnpackedFloat.round Format.binary64 s m e)) (signed s (m * 2 ^ e)) := by
  have target := targetExponent_eq m e
  rw [UnpackedFloat.round]
  generalize Format.binary64.targetExponent (totalExponent m e) = t at target ⊢
  obtain ⟨k, keq⟩ : ∃ k : ℕ, k = (e - t).toNat := ⟨_, rfl⟩
  have log : (m <<< k).log2 = m.log2 + k := log2_shiftLeft pos k
  have room : e - k ≤ Format.binary64.targetExponent (totalExponent (m <<< k) (e - k)) := by
    rw [targetExponent_eq, log]
    omega
  have same : ((m <<< k : ℕ) : ℚ) * 2 ^ (e - k) = m * 2 ^ e := by
    rw [Nat.shiftLeft_eq, zpow_sub₀ two_ne_zero, zpow_natCast]
    push_cast
    field_simp
  rw [← same]
  simp only [decreaseExponent, ← keq]
  exact rounds_roundWithAccuracy s (represents_natCast _) room

theorem rounds_normalize (m e : ℤ) (s : Sign) :
    Rounds (stored (UnpackedFloat.normalize Format.binary64 m e s)) (m * 2 ^ e) := by
  unfold UnpackedFloat.normalize
  rcases lt_trichotomy m 0 with neg | rfl | pos
  · obtain ⟨n, rfl⟩ : ∃ n : ℕ, m = -n := ⟨(-m).toNat, by omega⟩
    rw [compare_lt_iff_lt.mpr neg]
    have rounds := rounds_round e .negative (m := n) (by omega)
    simpa [signed] using rounds
  · rw [compare_eq_iff_eq.mpr rfl, Int.cast_zero, zero_mul]
    exact rounds_zero s
  · obtain ⟨n, rfl⟩ : ∃ n : ℕ, m = n := ⟨m.toNat, by omega⟩
    rw [compare_gt_iff_gt.mpr pos]
    exact rounds_round e .positive (by omega)

theorem signed_mul (s t : Sign) (x y : ℚ) : signed (s * t) (x * y) = signed s x * signed t y := by
  cases s <;> cases t
  · exact (neg_mul_neg x y).symm
  · exact (neg_mul x y).symm
  · exact (mul_neg x y).symm
  · rfl

theorem signed_div (s t : Sign) (x y : ℚ) : signed (s / t) (x / y) = signed s x / signed t y := by
  cases s <;> cases t
  · exact (neg_div_neg_eq x y).symm
  · exact (neg_div y x).symm
  · exact (div_neg x).symm
  · rfl

theorem le_targetExponent {m : ℕ} {e : ℤ} (enough : 2 ^ 52 ≤ m ∨ e ≤ leastExponent) :
    e ≤ Format.binary64.targetExponent (totalExponent m e) := by
  rw [targetExponent_eq]
  rcases enough with leading | least
  · have log : 52 ≤ m.log2 := (Nat.le_log2 (by omega)).mpr leading
    omega
  · exact le_max_of_le_right least

theorem eq_signed_of_denotes {s : Sign} {m : ℕ} {e : ℤ} {pos : 0 < m} {q : ℚ}
    (denotes : Denotes (.finite s m e pos) q) : q = signed s (m * 2 ^ e) := by
  cases denotes <;> rfl

theorem eq_of_denotes_finite {s : Sign} {m : ℕ} {e : ℤ} {pos : 0 < m} {q : ℚ}
    (denotes : Denotes (.finite s m e pos) q) : q = (s.apply m : ℤ) * 2 ^ e := by
  cases denotes <;> simp [Sign.apply]

theorem apply_decreaseExponent {e least : ℤ} (le : least ≤ e) (s : Sign) (m : ℕ) :
    ((s.apply (decreaseExponent m e least).1 : ℤ) : ℚ) * 2 ^ least = (s.apply m : ℤ) * 2 ^ e := by
  have shift : (2 : ℚ) ^ e = 2 ^ (e - least).toNat * 2 ^ least := by
    rw [← zpow_natCast, ← zpow_add₀ two_ne_zero]
    congr 1
    omega
  rw [decreaseExponent, Nat.shiftLeft_eq, shift]
  cases s <;> simp only [Sign.apply] <;> push_cast <;> ring

theorem apply_neg (s : Sign) (n : ℤ) : (-s).apply n = -s.apply n := by
  cases s with
  | negative => exact (neg_neg n).symm
  | positive => rfl

theorem sub_eq_add_opposite (u w : UnpackedFloat) :
    u.sub Format.binary64 w = u.add Format.binary64 w.neg := by
  cases u with
  | notANumber => rfl
  | infinity | zero => cases w <;> rfl
  | finite s m e pos =>
    cases w with
    | notANumber | infinity | zero => rfl
    | finite t k f pos' =>
      show UnpackedFloat.normalize _ (_ - t.apply _) _ _ =
        UnpackedFloat.normalize _ (_ + (-t).apply _) _ _
      rw [apply_neg, ← sub_eq_add_neg]

theorem product_enough {m k : ℕ} {e f : ℤ} (pos : 0 < m) (pos' : 0 < k) (left : Canonical m e)
    (right : Canonical k f) : 2 ^ 52 ≤ m * k ∨ e + f ≤ leastExponent := by
  by_contra neither
  have first : m ≤ m * k := Nat.le_mul_of_pos_right m pos'
  have second : k ≤ m * k := Nat.le_mul_of_pos_left k pos
  have least := left.2.2 (by omega)
  have least' := right.2.2 (by omega)
  unfold leastExponent at *
  omega

/-- How far the first significand is shifted before it is divided by the second. -/
def divShift (m : ℕ) (e : ℤ) (k : ℕ) (f : ℤ) : ℕ :=
  (e - f - Format.binary64.targetExponent (totalExponent m e - totalExponent k f)).toNat

theorem divCore_eq (m : ℕ) (e : ℤ) (k : ℕ) (f : ℤ) : divCore Format.binary64 m e k f =
    (m * 2 ^ divShift m e k f / k, e - f - divShift m e k f,
      accuracyOfFraction (m * 2 ^ divShift m e k f % k) k) := by
  have least : min (e - f) (Format.binary64.targetExponent (totalExponent m e - totalExponent k f)) =
      e - f - divShift m e k f := by
    unfold divShift
    omega
  have shift : (e - f - (e - f - divShift m e k f)).toNat = divShift m e k f := by omega
  rw [divCore]
  simp only [least, shift, Nat.shiftLeft_eq]

theorem quotient_eq (m : ℕ) (e : ℤ) (k : ℕ) (f : ℤ) : (m * 2 ^ e : ℚ) / (k * 2 ^ f) =
    (m * 2 ^ divShift m e k f : ℕ) / k * 2 ^ (e - f - divShift m e k f) := by
  rw [zpow_sub₀ two_ne_zero, zpow_sub₀ two_ne_zero, zpow_natCast]
  push_cast
  field_simp

theorem quotient_enough {m k : ℕ} (pos : 0 < m) (pos' : 0 < k) (e f : ℤ) :
    2 ^ 52 ≤ m * 2 ^ divShift m e k f / k ∨ e - f - divShift m e k f ≤ leastExponent := by
  by_contra neither
  obtain ⟨short, later⟩ := not_or.mp neither
  refine short ?_
  have target : Format.binary64.targetExponent (totalExponent m e - totalExponent k f) =
      max ((m.log2 : ℤ) + e - (k.log2 + f) - 53) leastExponent := by
    show max ((m.log2 : ℤ) + 1 + e - (k.log2 + 1 + f) - (53 : ℕ)) leastExponent = _
    congr 1
    omega
  have long : k.log2 + 53 ≤ m.log2 + divShift m e k f := by
    unfold divShift at later ⊢
    omega
  rw [Nat.le_div_iff_mul_le pos']
  calc 2 ^ 52 * k ≤ 2 ^ 52 * 2 ^ (k.log2 + 1) := Nat.mul_le_mul_left _ Nat.lt_log2_self.le
    _ = 2 ^ (k.log2 + 53) := by rw [← pow_add, Nat.add_comm, Nat.add_assoc]
    _ ≤ 2 ^ (m.log2 + divShift m e k f) := Nat.pow_le_pow_right (by decide) long
    _ ≤ m * 2 ^ divShift m e k f := by
      rw [pow_add]
      exact Nat.mul_le_mul_right _ (Nat.log2_self_le pos.ne')

section

variable {u w : UnpackedFloat} {p q : ℚ} (uCanonical : IsCanonical u) (wCanonical : IsCanonical w)
  (uValue : Denotes u p) (wValue : Denotes w q)

include uCanonical uValue in
theorem rounds_of_denotes : Rounds (stored u) p := by
  cases u with
  | notANumber | infinity => cases uValue
  | zero s =>
    cases uValue
    exact rounds_zero s
  | finite s m e pos =>
    rw [eq_signed_of_denotes uValue]
    exact rounds_canonical s pos uCanonical

include uCanonical wCanonical uValue wValue

theorem rounds_add : Rounds (stored (u.add Format.binary64 w)) (p + q) := by
  cases u with
  | notANumber | infinity => cases uValue
  | zero s =>
    cases uValue
    rw [zero_add]
    cases w with
    | notANumber | infinity => cases wValue
    | zero t =>
      cases wValue
      unfold UnpackedFloat.add
      dsimp only
      split <;> exact rounds_zero _
    | finite t k f pos => exact rounds_of_denotes wCanonical wValue
  | finite s m e pos =>
    cases w with
    | notANumber | infinity => cases wValue
    | zero t =>
      cases wValue
      rw [add_zero]
      exact rounds_of_denotes uCanonical uValue
    | finite t k f pos' =>
      have left := apply_decreaseExponent (min_le_left e f) s m
      have right := apply_decreaseExponent (min_le_right e f) t k
      rw [eq_of_denotes_finite uValue, eq_of_denotes_finite wValue, ← left, ← right, ← add_mul,
        ← Int.cast_add]
      exact rounds_normalize _ _ _

theorem rounds_mul : Rounds (stored (u.mul Format.binary64 w)) (p * q) := by
  cases u with
  | notANumber | infinity => cases uValue
  | zero s =>
    cases uValue
    rw [zero_mul]
    cases w with
    | notANumber | infinity => cases wValue
    | zero t => exact rounds_zero _
    | finite t k f pos => exact rounds_zero _
  | finite s m e pos =>
    cases w with
    | notANumber | infinity => cases wValue
    | zero t =>
      cases wValue
      rw [mul_zero]
      exact rounds_zero _
    | finite t k f pos' =>
      have product : p * q = signed (s * t) ((m * k : ℕ) * 2 ^ (e + f)) := by
        rw [eq_signed_of_denotes uValue, eq_signed_of_denotes wValue, ← signed_mul,
          zpow_add₀ two_ne_zero, Nat.cast_mul, mul_mul_mul_comm]
      rw [product]
      exact rounds_roundWithAccuracy (s * t) (represents_natCast _)
        (le_targetExponent (product_enough pos pos' uCanonical wCanonical))

theorem rounds_sub : Rounds (stored (u.sub Format.binary64 w)) (p - q) := by
  have turned : IsCanonical w.neg ∧ Denotes w.neg (-q) := by
    cases wValue with
    | zero s =>
      rw [neg_zero]
      exact ⟨trivial, .zero _⟩
    | positive pos => exact ⟨wCanonical, .negative pos⟩
    | negative pos =>
      rw [neg_neg]
      exact ⟨wCanonical, .positive pos⟩
  rw [sub_eq_add_opposite, sub_eq_add_neg]
  exact rounds_add uCanonical turned.1 uValue turned.2

omit uCanonical wCanonical in
theorem rounds_div (some : q ≠ 0) : Rounds (stored (u.div Format.binary64 w)) (p / q) := by
  cases w with
  | notANumber | infinity => cases wValue
  | zero t =>
    cases wValue
    exact absurd rfl some
  | finite t k f pos' =>
    cases u with
    | notANumber | infinity => cases uValue
    | zero s =>
      cases uValue
      rw [zero_div]
      exact rounds_zero _
    | finite s m e pos =>
      rw [eq_signed_of_denotes uValue, eq_signed_of_denotes wValue, ← signed_div,
        quotient_eq m e k f]
      rw [UnpackedFloat.div]
      simp only [divCore_eq]
      exact rounds_roundWithAccuracy (s / t) (represents_div pos' _)
        (le_targetExponent (quotient_enough pos pos' e f))

end

theorem stored_parts (v : Float) : stored (parts v) = parts v :=
  congrArg (unpack Format.binary64) (pack_unpack_toBits v)

section

variable {v w : Float} {p q : ℚ} (vValue : valueOf v = some p) (wValue : valueOf w = some q)

include vValue in
theorem rounds_of_valueOf : Rounds (parts v) p := by
  rw [← stored_parts]
  exact rounds_of_denotes (isCanonical_parts v) (denotes_of_valueOf vValue)

include vValue wValue

theorem rounds_parts_add : Rounds (parts (v + w)) (p + q) :=
  rounds_add (isCanonical_parts v) (isCanonical_parts w) (denotes_of_valueOf vValue)
    (denotes_of_valueOf wValue)

theorem rounds_parts_sub : Rounds (parts (v - w)) (p - q) :=
  rounds_sub (isCanonical_parts v) (isCanonical_parts w) (denotes_of_valueOf vValue)
    (denotes_of_valueOf wValue)

theorem rounds_parts_mul : Rounds (parts (v * w)) (p * q) :=
  rounds_mul (isCanonical_parts v) (isCanonical_parts w) (denotes_of_valueOf vValue)
    (denotes_of_valueOf wValue)

theorem rounds_parts_div (some : q ≠ 0) : Rounds (parts (v / w)) (p / q) :=
  rounds_div (denotes_of_valueOf vValue) (denotes_of_valueOf wValue) some

end

theorem Rounds.le {v w : Float} {x y : ℚ} (left : Rounds (parts v) x) (right : Rounds (parts w) y)
    (le : x ≤ y) : v ≤ w := by
  rw [le_iff_rank_le left.number right.number, left.rank_eq, right.rank_eq]
  exact nearestRank_mono le

theorem Rounds.beq_iff {v w : Float} {x y : ℚ} (left : Rounds (parts v) x)
    (right : Rounds (parts w) y) : (v == w) = true ↔ nearestRank x = nearestRank y := by
  show ((parts v).compare (parts w) == some .eq) = true ↔ _
  rw [compare_eq_compare_rank (isStored_parts v) (isStored_parts w) left.number right.number,
    left.rank_eq, right.rank_eq, beq_iff_eq, Option.some.injEq, compare_eq_iff_eq]

theorem Rounds.valueOf_eq {v w : Float} {x : ℚ} (rounds : Rounds (parts v) x)
    (found : valueOf w = some x) : valueOf v = some x := by
  have same : (parts v).beq (parts w) = true := (rounds.beq_iff (rounds_of_valueOf found)).mpr rfl
  rw [valueOf, of_eq_ofUnpacked] at found ⊢
  rcases eq_or_zero_of_beq same with eq | ⟨s, t, vZero, wZero⟩
  · rw [eq, found]
  · rw [wZero] at found
    rw [vZero, ← found]
    simp [ofUnpacked, value]

theorem stored_infinity (s : Sign) : stored (.infinity s) = .infinity s := by
  cases s <;> rfl

theorem parts_add_infinite {v w : Float} {p : ℚ} (value : valueOf v = some p)
    (infinite : parts w = .infinity .positive) : parts (v + w) = .infinity .positive := by
  have denotes := denotes_of_valueOf value
  show stored ((parts v).add Format.binary64 (parts w)) = _
  rw [infinite]
  generalize parts v = u at denotes
  cases denotes <;> exact stored_infinity .positive

theorem parts_div_infinite {v w : Float} {q : ℚ} (infinite : parts v = .infinity .positive)
    (value : valueOf w = some q) (pos : 0 < q) : parts (v / w) = .infinity .positive := by
  have denotes := denotes_of_valueOf value
  show stored ((parts v).div Format.binary64 (parts w)) = _
  rw [infinite]
  generalize parts w = u at denotes
  cases denotes with
  | zero => exact absurd pos (lt_irrefl 0)
  | positive => exact stored_infinity .positive
  | negative posSignificand => exact absurd pos (neg_magnitude_neg _ posSignificand).not_gt

theorem Rounds.infinite_or_value {v : Float} {x : ℚ} (rounds : Rounds (parts v) x) (above : 0 ≤ x) :
    parts v = .infinity .positive ∨ ∃ p, valueOf v = some p ∧ 0 ≤ p := by
  have nonnegative := nearestRank_nonneg above
  rw [← rounds.rank_eq] at nonnegative
  have number := rounds.number
  rw [valueOf, of_eq_ofUnpacked]
  generalize parts v = u at nonnegative number
  cases u with
  | notANumber => exact absurd rfl number
  | zero s => exact .inr ⟨_, rfl, by simp⟩
  | infinity s =>
    cases s with
    | positive => exact .inl rfl
    | negative => exact absurd nonnegative (by decide)
  | finite s m e pos =>
    cases s with
    | positive => exact .inr ⟨m * 2 ^ e, rfl, by positivity⟩
    | negative => exact absurd nonnegative (rank_finite_neg pos).not_ge

theorem rank_lt_of_valueOf {v : Float} {p : ℚ} (value : valueOf v = some p) :
    rank (parts v) < infinityBits := by
  have isStored := isStored_parts v
  have denotes := denotes_of_valueOf value
  generalize parts v = u at isStored denotes
  cases denotes with
  | zero => exact infinityBits_pos
  | positive | negative => exact (rank_bounds isStored).2

section

variable {v t t' : Float} {p x x' : ℚ} (rounds : Rounds (parts t) x) (above : 0 ≤ x)

include rounds above

theorem Rounds.infinite_mono (rounds' : Rounds (parts t') x') (le : x ≤ x')
    (infinite : parts t = .infinity .positive) : parts t' = .infinity .positive := by
  rcases rounds'.infinite_or_value (above.trans le) with infinite' | ⟨q', value', -⟩
  · exact infinite'
  · have ranks := nearestRank_mono le
    rw [← rounds.rank_eq, ← rounds'.rank_eq, infinite] at ranks
    exact absurd (rank_lt_of_valueOf value') (not_lt.mpr ranks)

theorem Rounds.le_add (value : valueOf v = some p) : v ≤ v + t := by
  have number := rounds_of_valueOf value
  rcases rounds.infinite_or_value above with infinite | ⟨q, value', above'⟩
  · exact le_of_infinite number.number (parts_add_infinite value infinite)
  · exact number.le (rounds_parts_add value value') (le_add_of_nonneg_right above')

theorem Rounds.add_le_add (value : valueOf v = some p) (rounds' : Rounds (parts t') x')
    (le : x ≤ x') : v + t ≤ v + t' := by
  rcases rounds.infinite_or_value above with infinite | ⟨q, tValue, -⟩
  · have infinite' := rounds.infinite_mono above rounds' le infinite
    refine le_of_infinite ?_ (parts_add_infinite value infinite')
    rw [parts_add_infinite value infinite]
    exact UnpackedFloat.noConfusion
  have sum := rounds_parts_add value tValue
  rcases rounds'.infinite_or_value (above.trans le) with infinite' | ⟨q', tValue', -⟩
  · exact le_of_infinite sum.number (parts_add_infinite value infinite')
  · have ordered := (le_iff_valueOf_le tValue tValue').mp (rounds.le rounds' le)
    exact sum.le (rounds_parts_add value tValue') (add_le_add_right ordered p)

end

end SurfaceLang.Binary64
