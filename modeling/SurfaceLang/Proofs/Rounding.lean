import SurfaceLang.Proofs.Nearest

namespace SurfaceLang.Binary64

/-- `r` is the whole number nearest to `q`, the even one of two that are equally near. -/
structure IsNearest (q : ℚ) (r : ℕ) : Prop where
  low : (r : ℚ) - 1 / 2 ≤ q
  high : q ≤ r + 1 / 2
  tie : q = r - 1 / 2 ∨ q = r + 1 / 2 → r % 2 = 0

theorem isNearest_natCast (n : ℕ) : IsNearest n n where
  low := by linarith
  high := by linarith
  tie := by rintro (half | half) <;> linarith

theorem IsNearest.mono {q q' : ℚ} {r r' : ℕ} (near : IsNearest q r) (near' : IsNearest q' r')
    (le : q ≤ q') : r ≤ r' := by
  by_contra beyond
  have step : (r' : ℚ) + 1 ≤ r := by exact_mod_cast Nat.not_le.mp beyond
  have low := near.low
  have high := near'.high
  -- Both fractions lie in the middle between the two, which would both be even.
  have even := near.tie (.inl (by linarith))
  have even' := near'.tie (.inr (by linarith))
  have next : (r : ℚ) = (r' + 1 : ℕ) := by
    push_cast
    linarith
  have next' : r = r' + 1 := by exact_mod_cast next
  omega

theorem IsNearest.eq {q : ℚ} {r r' : ℕ} (near : IsNearest q r) (near' : IsNearest q r') : r = r' :=
  Nat.le_antisymm (near.mono near' le_rfl) (near'.mono near le_rfl)

/-- `part` is what is left of a quotient after its whole number. -/
structure IsPart (num den : ℕ) (part : ℚ) : Prop where
  quotient : (num / den : ℚ) = (num / den : ℕ) + part
  remainder : part * den = (num % den : ℕ)

theorem exists_isPart {den : ℕ} (pos : 0 < den) (num : ℕ) : ∃ part, IsPart num den part := by
  have denPos : (0 : ℚ) < den := by exact_mod_cast pos
  refine ⟨(num % den : ℕ) / den, ?_, div_mul_cancel₀ _ denPos.ne'⟩
  have whole : (num : ℚ) = den * (num / den : ℕ) + (num % den : ℕ) := by
    exact_mod_cast (Nat.div_add_mod num den).symm
  rw [whole]
  field_simp

section

variable {num den : ℕ} {part : ℚ} (isPart : IsPart num den part) (pos : 0 < den)

include isPart pos

theorem IsPart.nonneg : 0 ≤ part := by
  have denPos : (0 : ℚ) < den := by exact_mod_cast pos
  refine nonneg_of_mul_nonneg_left ?_ denPos
  rw [isPart.remainder]
  positivity

theorem IsPart.lt_one : part < 1 := by
  have denPos : (0 : ℚ) < den := by exact_mod_cast pos
  rw [← mul_lt_mul_iff_left₀ denPos, isPart.remainder, one_mul]
  exact_mod_cast Nat.mod_lt num pos

theorem IsPart.compare_half : compare (2 * (num % den)) den = compare part (1 / 2) := by
  have scaled : StrictMono fun q : ℚ => q * (2 * den) := fun q q' lt => by
    have denPos : (0 : ℚ) < den := by exact_mod_cast pos
    show q * (2 * den) < q' * (2 * den)
    gcongr
  have casts : StrictMono fun n : ℕ => (n : ℚ) := Nat.strictMono_cast
  rw [← cmp_eq_compare, ← cmp_eq_compare, ← scaled.cmp_map_eq, ← casts.cmp_map_eq]
  congr 1
  · push_cast
    rw [← isPart.remainder, mul_left_comm]
  · rw [one_div, inv_mul_cancel_left₀ two_ne_zero]

end

theorem isNearest_roundHalfEven {den : ℕ} (pos : 0 < den) (num : ℕ) :
    IsNearest (num / den) (roundHalfEven num den) := by
  obtain ⟨part, isPart⟩ := exists_isPart pos num
  have above := isPart.nonneg pos
  have below := isPart.lt_one pos
  have half := isPart.compare_half pos
  have half_lt : 2 * (num % den) < den ↔ part < 1 / 2 := by
    rw [← compare_lt_iff_lt, half, compare_lt_iff_lt]
  have half_eq : 2 * (num % den) = den ↔ part = 1 / 2 := by
    rw [← compare_eq_iff_eq, half, compare_eq_iff_eq]
  rw [isPart.quotient]
  unfold roundHalfEven
  simp only [half_lt, half_eq]
  generalize num / den = low
  split <;> rename_i rounds
  · refine ⟨by linarith, ?_, ?_⟩
    · rcases rounds with lt | ⟨eq, -⟩ <;> linarith
    · rintro (tie | tie)
      · linarith
      · exact rounds.elim (fun lt => by linarith) (fun even => even.2)
  · have enough : 1 / 2 ≤ part := by
      by_contra lt
      exact rounds (.inl (not_le.mp lt))
    have next : ((low + 1 : ℕ) : ℚ) = low + 1 := Nat.cast_succ low
    refine ⟨by linarith, by linarith, ?_⟩
    rintro (tie | tie)
    · have odd : low % 2 ≠ 0 := fun even => rounds (.inr ⟨by linarith, even⟩)
      omega
    · linarith

/-- The exponent and the significand of a number from zero on, rounded. A significand that is
rounded up to `2 ^ 53` keeps the exponent here. -/
structure Rounded (x : ℚ) (e : ℤ) (s : ℕ) : Prop where
  nonneg : 0 ≤ x
  least : leastExponent ≤ e
  low : leastExponent < e → (2 : ℚ) ^ (e + 52) ≤ x
  high : x < 2 ^ (e + 53)
  nearest : IsNearest (x / 2 ^ e) s

def encoded (e : ℤ) (s : ℕ) : ℕ :=
  (e - leastExponent).toNat * 2 ^ 52 + s

theorem zpow_le_iff {k l : ℤ} : (2 : ℚ) ^ k ≤ 2 ^ l ↔ k ≤ l :=
  zpow_le_zpow_iff_right₀ (by norm_num)

namespace Rounded

variable {x x' : ℚ} {e e' : ℤ} {s s' : ℕ}

theorem le (rounded : Rounded x e s) : s ≤ 2 ^ 53 := by
  refine rounded.nearest.mono (isNearest_natCast _) ?_
  rw [div_le_iff₀ (by positivity)]
  have high := rounded.high
  rw [zpow_add₀ two_ne_zero] at high
  push_cast
  linarith

theorem ge (rounded : Rounded x e s) (lt : leastExponent < e) : 2 ^ 52 ≤ s := by
  refine (isNearest_natCast _).mono rounded.nearest ?_
  rw [le_div_iff₀ (by positivity)]
  have low := rounded.low lt
  rw [zpow_add₀ two_ne_zero] at low
  push_cast
  linarith

theorem exponent_mono (rounded : Rounded x e s) (rounded' : Rounded x' e' s') (le : x ≤ x') :
    e ≤ e' := by
  by_contra beyond
  have least := rounded'.least
  have low := rounded.low (by omega)
  have high := rounded'.high
  have step : (2 : ℚ) ^ (e' + 53) ≤ 2 ^ (e + 52) := zpow_le_iff.mpr (by omega)
  linarith

theorem encoded_mono (rounded : Rounded x e s) (rounded' : Rounded x' e' s') (le : x ≤ x') :
    encoded e s ≤ encoded e' s' := by
  have exponents := rounded.exponent_mono rounded' le
  have least := rounded.least
  unfold encoded
  rcases exponents.eq_or_lt with rfl | lt
  · have significands : s ≤ s' :=
      rounded.nearest.mono rounded'.nearest (by gcongr)
    omega
  -- A greater exponent makes up for the leading one, which is in the significand too.
  · have leading := rounded'.ge (by omega)
    have bound := rounded.le
    have later : (e - leastExponent).toNat + 1 ≤ (e' - leastExponent).toNat := by omega
    omega

theorem encoded_eq (rounded : Rounded x e s) (rounded' : Rounded x e' s') :
    encoded e s = encoded e' s' :=
  Nat.le_antisymm (rounded.encoded_mono rounded' le_rfl) (rounded'.encoded_mono rounded le_rfl)

theorem zero : Rounded 0 leastExponent 0 where
  nonneg := le_rfl
  least := le_rfl
  low := fun lt => absurd lt (lt_irrefl _)
  high := by positivity
  nearest := by simpa using isNearest_natCast 0

theorem of_canonical (canonical : Canonical s e) : Rounded (s * 2 ^ e) e s where
  nonneg := by positivity
  least := canonical.2.1
  low := by
    intro lt
    have leading : (2 : ℚ) ^ 52 ≤ s := by exact_mod_cast canonical.leading lt
    calc (2 : ℚ) ^ (e + 52) = 2 ^ 52 * 2 ^ e := by rw [zpow_add₀ two_ne_zero, mul_comm]; norm_cast
      _ ≤ s * 2 ^ e := by gcongr
  high := by
    have small : (s : ℚ) < 2 ^ 53 := by exact_mod_cast canonical.1
    calc (s : ℚ) * 2 ^ e < 2 ^ 53 * 2 ^ e := by gcongr
      _ = 2 ^ (e + 53) := by rw [zpow_add₀ two_ne_zero, mul_comm]; norm_cast
  nearest := by
    rw [mul_div_cancel_right₀ _ (by positivity)]
    exact isNearest_natCast s

theorem of_exponentAt {num den : ℕ} (numPos : 0 < num) (denPos : 0 < den) :
    Rounded (num / den) (exponentAt num den)
      (roundHalfEven (num * 2 ^ (-exponentAt num den).toNat)
        (den * 2 ^ (exponentAt num den).toNat)) := by
  obtain ⟨low, high⟩ := floorLog2_spec numPos denPos
  have log : exponentAt num den = max (floorLog2 num den - 52) leastExponent := rfl
  generalize exponentAt num den = e at log ⊢
  refine ⟨by positivity, by omega, fun lt => ?_, high.trans_le (zpow_le_iff.mpr (by omega)), ?_⟩
  · have exponent : e + 52 = floorLog2 num den := by omega
    rwa [exponent]
  · have quotient : (num / den / 2 ^ e : ℚ) =
        (num * 2 ^ (-e).toNat : ℕ) / (den * 2 ^ e.toNat : ℕ) := by
      rw [zpow_eq_div]
      push_cast
      field_simp
    have scaledPos : 0 < den * 2 ^ e.toNat := by positivity
    rw [quotient]
    exact isNearest_roundHalfEven scaledPos _

end Rounded

theorem nearestBits_of_rounded {num den s : ℕ} {e : ℤ} (denPos : 0 < den)
    (rounded : Rounded (num / den) e s) :
    nearestBits num den = min (encoded e s) infinityBits := by
  rcases Nat.eq_zero_or_pos num with rfl | numPos
  · rw [Nat.cast_zero, zero_div] at rounded
    have none : encoded leastExponent 0 = 0 := by simp [encoded]
    rw [nearestBits, if_pos rfl, rounded.encoded_eq .zero, none, Nat.zero_min]
  · rw [nearestBits, if_neg numPos.ne', rounded.encoded_eq (.of_exponentAt numPos denPos)]
    rfl

end SurfaceLang.Binary64
