import Mathlib
import SurfaceLang.Binary64

namespace SurfaceLang.Binary64

open Float.Model (Format UnpackedFloat)
open Float.Model.UnpackedFloat

theorem ofBitVec_toBitVec (b : BitVec 1) : (Sign.ofBitVec b).toBitVec = b := by
  revert b
  decide

theorem packComponents_unpack (b : BitVec Format.binary64.numBits) :
    packComponents Format.binary64 (Sign.ofBitVec (unpackSign b)) (unpackExponent b)
      (unpackMantissa b) = b := by
  rw [packComponents, ofBitVec_toBitVec]
  apply BitVec.eq_of_getLsbD_eq
  intro i bound
  simp only [BitVec.getLsbD_append, unpackMantissa, unpackExponent, unpackSign, BitVec.getLsbD_cast,
    BitVec.getLsbD_extractLsb]
  split
  · simp
    omega
  · split
    · have above : 52 + (i - 52) = i := by omega
      simp [above]
      omega
    · have sign : i = 63 := by
        simp at bound
        omega
      subst sign
      simp
      rfl

theorem unpackSign_packComponents {spec : Format} (s : Sign) (e : BitVec spec.exponentBits)
    (m : BitVec spec.mantissaBitsWithoutImplicit) :
    unpackSign (packComponents spec s e m) = s.toBitVec := by
  ext i bound
  obtain rfl : i = 0 := by omega
  simp [unpackSign, packComponents, BitVec.getLsbD_append, ← BitVec.getLsbD_eq_getElem]

theorem pack_subnormal {s : Sign} {m : Nat} (pos : 0 < m) (small : m < 2 ^ 52) :
    pack Format.binary64 (.finite s m (-1074) pos) =
      packComponents Format.binary64 s 0#_ (BitVec.ofNat _ m) := by
  have short : m.log2 < 52 := (Nat.log2_lt (by omega)).mpr small
  have bits : ¬ m.log2 + 1 = Format.binary64.mantissaBits := by
    show ¬ m.log2 + 1 = 53
    omega
  rw [pack]
  exact (if_neg (by decide)).trans (if_neg bits)

theorem pack_normal {s : Sign} {m k : Nat} (pos : 0 < m) (low : 2 ^ 52 ≤ m) (high : m < 2 ^ 53)
    (finite : k < 2047) :
    pack Format.binary64 (.finite s m (k - 1075) pos) =
      packComponents Format.binary64 s (BitVec.ofNat _ k) (BitVec.ofNat _ m) := by
  have log : m.log2 = 52 := by
    refine (Nat.log2_eq_iff (by omega)).mpr ?_
    omega
  have bits : m.log2 + 1 = Format.binary64.mantissaBits := by rw [log]; rfl
  have biased : ((k : Int) - 1075 + Format.binary64.exponentBias +
      Format.binary64.mantissaBitsWithoutImplicit).toNat = k := by
    show ((k : Int) - 1075 + (1023 : Nat) + (52 : Nat)).toNat = k
    omega
  have room : ¬ 2 ^ Format.binary64.exponentBits ≤ k + 1 := by
    show ¬ 2 ^ 11 ≤ k + 1
    omega
  rw [pack]
  simp only [biased]
  exact (if_neg room).trans (if_pos bits)

theorem toNat_leading_append (m : BitVec 52) : (1#1 ++ m).toNat = 2 ^ 52 + m.toNat := by
  have value : (1#1 ++ m).toNat = 1 <<< 52 ||| m.toNat := BitVec.toNat_append ..
  rw [value, ← Nat.shiftLeft_add_eq_or_of_lt m.isLt, Nat.shiftLeft_eq, Nat.one_mul]

theorem pack_unpack {b : BitVec Format.binary64.numBits} (valid : Format.binary64.Valid b) :
    pack Format.binary64 (unpack Format.binary64 b) = b := by
  have whole := packComponents_unpack b
  have mantissa_lt : (unpackMantissa b).toNat < 2 ^ 52 := (unpackMantissa b).isLt
  have exponent_lt : (unpackExponent b).toNat < 2 ^ 11 := (unpackExponent b).isLt
  unfold unpack
  dsimp only
  split
  · rename_i ones
    split
    · rename_i zero
      rw [ones, zero] at whole
      exact whole
    · rename_i payload
      exact (valid.eq_packedNaN ones payload).symm
  · rename_i notOnes
    have exponent_ne : (unpackExponent b).toNat ≠ 2047 := by
      intro eq
      exact notOnes (BitVec.eq_of_toNat_eq eq)
    split
    · rename_i zero
      split
      · rename_i none
        rw [zero, none] at whole
        exact whole
      · rename_i some
        have pos : (unpackMantissa b).toNat ≠ 0 := fun eq => some (BitVec.eq_of_toNat_eq eq)
        have packed := pack_subnormal (s := .ofBitVec (unpackSign b)) (by omega) mantissa_lt
        rw [zero] at whole ⊢
        refine packed.trans (Eq.trans ?_ whole)
        rw [BitVec.ofNat_toNat, BitVec.setWidth_eq]
    · have value : (1#1 ++ unpackMantissa b).toNat = 2 ^ 52 + (unpackMantissa b).toNat :=
        toNat_leading_append (unpackMantissa b)
      have low : BitVec.ofNat 52 (1#1 ++ unpackMantissa b).toNat = unpackMantissa b := by
        apply BitVec.eq_of_toNat_eq
        rw [BitVec.toNat_ofNat, value]
        omega
      have packed := pack_normal (s := .ofBitVec (unpackSign b))
        (m := (1#1 ++ unpackMantissa b).toNat) (k := (unpackExponent b).toNat)
        (by omega) (by omega) (by omega) (by omega)
      refine packed.trans (Eq.trans ?_ whole)
      rw [BitVec.ofNat_toNat, BitVec.setWidth_eq]
      exact congrArg _ low

theorem toBits_ofBits {bits : UInt64} (valid : Format.binary64.Valid bits.toBitVec) :
    (Float.ofBits bits).toBits = bits := by
  show UInt64.ofBitVec (pack Format.binary64 (unpack Format.binary64 bits.toBitVec)) = bits
  rw [pack_unpack valid]

theorem ofBits_toBits (v : Float) : Float.ofBits v.toBits = v := by
  have same := toBits_ofBits v.toModel.valid
  cases v with
  | ofModel m =>
    cases m with
    | mk bits valid =>
      have model : Float.Model.ofBits bits = ⟨bits, valid⟩ := by
        cases eq : Float.Model.ofBits bits with
        | mk other _ =>
          simp only [Float.toBits, Float.ofBits, eq] at same
          subst same
          rfl
      exact congrArg Float.ofModel model

theorem toNat_unpackMantissa (b : BitVec Format.binary64.numBits) :
    (unpackMantissa b).toNat = b.toNat % 2 ^ 52 := by
  simp [unpackMantissa]

theorem toNat_unpackExponent (b : BitVec Format.binary64.numBits) :
    (unpackExponent b).toNat = b.toNat / 2 ^ 52 % 2 ^ 11 := by
  simp [unpackExponent, Nat.shiftRight_eq_div_pow]

theorem unpackMantissa_of_mod_le {b : BitVec Format.binary64.numBits}
    (le : b.toNat % 2 ^ 63 ≤ infinityBits) (ones : unpackExponent b = -1#_) :
    unpackMantissa b = 0#_ := by
  have exponent := toNat_unpackExponent b
  rw [ones] at exponent
  replace exponent : 2047 = b.toNat / 2 ^ 52 % 2 ^ 11 := exponent
  apply BitVec.eq_of_toNat_eq
  rw [toNat_unpackMantissa]
  show b.toNat % 2 ^ 52 = 0
  unfold infinityBits at le
  omega

theorem unpackMantissa_of_le {b : BitVec Format.binary64.numBits} (le : b.toNat ≤ infinityBits)
    (ones : unpackExponent b = -1#_) : unpackMantissa b = 0#_ :=
  unpackMantissa_of_mod_le ((Nat.mod_le _ _).trans le) ones

theorem valid_of_le {b : BitVec Format.binary64.numBits} (le : b.toNat ≤ infinityBits) :
    Format.binary64.Valid b :=
  ⟨fun ones payload => absurd (unpackMantissa_of_le le ones) payload⟩

theorem unpack_ne_notANumber {b : BitVec Format.binary64.numBits} (le : b.toNat ≤ infinityBits) :
    unpack Format.binary64 b ≠ .notANumber := by
  intro eq
  unfold unpack at eq
  dsimp only at eq
  split at eq
  · rename_i ones
    rw [if_pos (unpackMantissa_of_le le ones)] at eq
    cases eq
  · split at eq
    · split at eq <;> cases eq
    · cases eq

theorem beq_self {u : UnpackedFloat} (number : u ≠ .notANumber) : u.beq u = true := by
  cases u with
  | notANumber => exact absurd rfl number
  | infinity s => cases s <;> rfl
  | zero s => rfl
  | finite s m e pos => cases s <;> simp [UnpackedFloat.beq, UnpackedFloat.compare]

theorem beq_self_of_le {v : Float} (le : v.toBits.toNat ≤ infinityBits) : (v == v) = true :=
  beq_self (unpack_ne_notANumber le)

theorem toBits_toFloat {bits : Nat} (le : bits ≤ infinityBits) :
    (toFloat false bits).toBits.toNat = bits := by
  have small : bits < 2 ^ 64 := by
    unfold infinityBits at le
    omega
  have value : (UInt64.ofNat bits).toBitVec.toNat = bits := by
    show bits % 2 ^ 64 = bits
    omega
  rw [toFloat, if_neg Bool.false_ne_true, toBits_ofBits (valid_of_le (value.symm ▸ le))]
  exact value

theorem toFloat_toBits (v : Float) : toFloat false v.toBits.toNat = v := by
  rw [toFloat, if_neg Bool.false_ne_true, UInt64.ofNat_toNat, ofBits_toBits]

theorem of_toFloat {bits : Nat} (le : bits ≤ infinityBits) :
    of (toFloat false bits) = ofMagnitudeBits false bits := by
  have small : bits < 2 ^ 63 := by
    unfold infinityBits at le
    omega
  rw [of, toBits_toFloat le, ofBits, Nat.mod_eq_of_lt small,
    decide_eq_false (Nat.not_le.mpr small)]

theorem of_toFloat_signed {bits : Nat} (le : bits ≤ infinityBits) (negative : Bool) :
    of (toFloat negative bits) = ofMagnitudeBits negative bits := by
  have small : bits < 2 ^ 63 := Nat.lt_of_le_of_lt le (by decide)
  cases negative with
  | false => exact of_toFloat le
  | true =>
    have word : (UInt64.ofNat (2 ^ 63 + bits)).toBitVec.toNat = 2 ^ 63 + bits := by
      show (2 ^ 63 + bits) % 2 ^ 64 = _
      omega
    have valid : Format.binary64.Valid (UInt64.ofNat (2 ^ 63 + bits)).toBitVec := by
      refine ⟨fun ones payload => absurd (unpackMantissa_of_mod_le ?_ ones) payload⟩
      rw [word]
      omega
    have kept : (toFloat true bits).toBits.toNat = 2 ^ 63 + bits := by
      rw [toFloat, if_pos rfl, toBits_ofBits valid]
      exact word
    rw [of, kept, ofBits, Nat.add_mod_left, Nat.mod_eq_of_lt small,
      decide_eq_true (Nat.le_add_right _ _)]

theorem ofMagnitudeBits_of_le {bits : Nat} (le : bits ≤ infinityBits) (negative : Bool) :
    (∃ significand exponent,
      ofMagnitudeBits negative bits = .finite negative significand exponent) ∨
      ofMagnitudeBits negative bits = .infinite negative := by
  unfold ofMagnitudeBits
  split
  · exact .inl ⟨_, _, rfl⟩
  · split
    · exact .inl ⟨_, _, rfl⟩
    · rw [if_pos (by omega)]
      exact .inr rfl

theorem eq_or_zero_of_beq {u w : UnpackedFloat} (same : u.beq w = true) :
    u = w ∨ ∃ s t, u = .zero s ∧ w = .zero t := by
  cases u with
  | notANumber => cases same
  | zero s =>
    cases w with
    | zero t => exact .inr ⟨s, t, rfl, rfl⟩
    | notANumber => cases same
    | infinity t | finite t => cases t <;> cases same
  | infinity s =>
    cases w with
    | infinity t => cases s <;> cases t <;> first | exact .inl rfl | cases same
    | notANumber | zero | finite => cases s <;> cases same
  | finite s m e pos =>
    cases w with
    | finite t k f pos' =>
      -- numbers of one sign are ordered by exponent and significand
      left
      cases s <;> cases t <;>
        simp [UnpackedFloat.beq, UnpackedFloat.compare, Ordering.then_eq_eq] at same
      all_goals
        obtain ⟨rfl, rfl⟩ := same
        rfl
    | notANumber | zero => cases s <;> cases same
    | infinity t => cases s <;> cases t <;> cases same

theorem pack_unpack_toBits (v : Float) :
    pack Format.binary64 (unpack Format.binary64 v.toBits.toBitVec) = v.toBits.toBitVec :=
  pack_unpack v.toModel.valid

theorem toBits_of_unpack_zero {v : Float} {s : Sign} (unsigned : v.toBits.toNat < 2 ^ 63)
    (zero : unpack Format.binary64 v.toBits.toBitVec = .zero s) : v.toBits = 0 := by
  have packed := pack_unpack_toBits v
  rw [zero] at packed
  apply UInt64.toNat_inj.mp
  rw [← UInt64.toNat_toBitVec, ← packed] at unsigned ⊢
  cases s with
  | positive => rfl
  | negative => exact absurd unsigned (by decide)

theorem eq_of_toBits {v w : Float} (same : v.toBits = w.toBits) : v = w := by
  rw [← ofBits_toBits v, same, ofBits_toBits]

theorem eq_of_beq_of_unsigned {v w : Float} (vUnsigned : v.toBits.toNat < 2 ^ 63)
    (wUnsigned : w.toBits.toNat < 2 ^ 63) (same : (v == w) = true) : v = w := by
  have parts : (unpack Format.binary64 v.toBits.toBitVec).beq
      (unpack Format.binary64 w.toBits.toBitVec) = true := same
  apply eq_of_toBits
  rcases eq_or_zero_of_beq parts with eq | ⟨s, t, vZero, wZero⟩
  · apply UInt64.toBitVec_inj.mp
    rw [← pack_unpack_toBits v, eq, pack_unpack_toBits]
  · rw [toBits_of_unpack_zero vUnsigned vZero, toBits_of_unpack_zero wUnsigned wZero]

end SurfaceLang.Binary64
