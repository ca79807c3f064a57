import SurfaceLang.Proofs.Exact
import SurfaceLang.Proofs.Numerals

namespace SurfaceLang

namespace Binary64

open Float.Model.UnpackedFloat (Sign)

theorem eq_of_parts {v w : Float} (same : parts v = parts w) : v = w := by
  apply eq_of_toBits
  apply UInt64.toBitVec_inj.mp
  rw [← pack_unpack_toBits v, ← pack_unpack_toBits w]
  exact congrArg _ same

theorem parts_of_nan {v : Float} (nan : of v = .nan) : parts v = .notANumber := by
  rw [of_eq_ofUnpacked] at nan
  cases eq : parts v with
  | notANumber => rfl
  | zero | infinity | finite => rw [eq] at nan; cases nan

theorem ofMagnitudeBits_unsigned {bits s : Nat} {p : Int} {negative : Bool}
    (finite : ofMagnitudeBits negative bits = .finite negative s p) :
    ofMagnitudeBits false bits = .finite false s p := by
  unfold ofMagnitudeBits at finite ⊢
  split at finite <;> rename_i low
  · cases finite
    rw [if_pos low]
  · rw [if_neg low]
    split at finite <;> rename_i high
    · cases finite
      rw [if_pos high]
    · split at finite <;> cases finite

theorem exists_unsigned {v : Float} {s : Nat} {p : Int} (finite : of v = .finite true s p) :
    ∃ w, of w = .finite false s p ∧ w.toBits.toNat = v.toBits.toNat % 2 ^ 63 ∧
      v = toFloat true w.toBits.toNat := by
  unfold of ofBits at finite
  obtain ⟨sign, _, _, small⟩ := canonical_of_ofMagnitudeBits finite
  rw [← sign] at finite
  have signed : 2 ^ 63 ≤ v.toBits.toNat := of_decide_eq_true sign.symm
  have bits := toBits_toFloat small.le
  refine ⟨toFloat false (v.toBits.toNat % 2 ^ 63), ?_, bits, ?_⟩
  · rw [of_toFloat small.le]
    exact ofMagnitudeBits_unsigned finite
  · have width : v.toBits.toNat < 2 ^ 64 := v.toBits.toNat_lt
    have whole : 2 ^ 63 + v.toBits.toNat % 2 ^ 63 = v.toBits.toNat := by omega
    rw [bits, toFloat, if_pos rfl, whole, UInt64.ofNat_toNat, ofBits_toBits]

end Binary64

open Numeral Binary64

theorem IsNumeral.exists_decimal {cs : List Char} (numeral : IsNumeral cs) :
    ∃ d, decimal? cs = some d := by
  cases numeral with
  | whole nonempty digits => exact ⟨_, decimal?_of_whole nonempty digits⟩
  | point nonempty digits fraction => exact ⟨_, decimal?_of_point nonempty digits fraction⟩

theorem readFloat_minus {cs : List Char} {w : Float} (numeral : IsNumeral cs)
    (read : readFloat (String.ofList cs) = .ok w) :
    readFloat (String.ofList ('-' :: cs)) = .ok (toFloat true w.toBits.toNat) := by
  obtain ⟨d, value⟩ := numeral.exists_decimal
  rw [numeral.readFloat_eq value] at read
  cases read
  rw [toBits_toFloat d.bits_le]
  simp [readFloat, sign, magnitudeBits?, value]

theorem floatText_minus {v w : Float} {s : Nat} {p : Int} (vFinite : of v = .finite true s p)
    (wFinite : of w = .finite false s p) (bits : w.toBits.toNat = v.toBits.toNat % 2 ^ 63) :
    floatText v = String.ofList ('-' :: (floatText w).toList) := by
  unfold floatText
  rw [vFinite, wFinite, bits, Nat.mod_mod]
  simp

theorem readFloat_floatText (v : Float) : readFloat (floatText v) = .ok v := by
  cases number : of v with
  | nan =>
    have canonical : of (toFloat false (infinityBits + 2 ^ 51)) = .nan := by decide +kernel
    have same := eq_of_parts ((parts_of_nan number).trans (parts_of_nan canonical).symm)
    rw [floatText, number, same]
    rfl
  | infinite negative =>
    have canonical : of (toFloat negative infinityBits) = .infinite negative := by
      cases negative <;> decide +kernel
    have same := eq_of_parts ((parts_of_infinite number).trans (parts_of_infinite canonical).symm)
    rw [floatText, number, same]
    cases negative <;> rfl
  | finite negative s p =>
    cases negative with
    | false => exact (floatText_spec number).2
    | true =>
      obtain ⟨w, unsigned, bits, signed⟩ := exists_unsigned number
      obtain ⟨numeral, read⟩ := floatText_spec unsigned
      rw [← String.ofList_toList (s := floatText w)] at read
      rw [floatText_minus number unsigned bits, readFloat_minus numeral read, ← signed]

theorem floatText_injective : Function.Injective floatText := by
  intro v w same
  have read := readFloat_floatText v
  rw [same, readFloat_floatText w] at read
  cases read
  rfl

end SurfaceLang
