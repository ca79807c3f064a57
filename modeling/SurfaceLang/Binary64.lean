namespace SurfaceLang

namespace Powers

/-- The powers of natural numbers in definitions, whatever other powers are known around them. -/
scoped instance (priority := high) natPow : Pow Nat Nat := instPowNat

end Powers

open scoped Powers

/-- A finite number is `significand * 2 ^ exponent`, or the negative of that. -/
inductive Binary64 where
  | nan
  | infinite (negative : Bool)
  | finite (negative : Bool) (significand : Nat) (exponent : Int)
  deriving DecidableEq, Repr

namespace Binary64

def leastExponent : Int := -1074

def infinityBits : Nat := 2047 * 2 ^ (52 : Nat)

/-- The magnitude with the given bits, all but the sign. The leading one of a significand is
stored only when the exponent is the least. -/
def ofMagnitudeBits (negative : Bool) (bits : Nat) : Binary64 :=
  if bits < 2 ^ (52 : Nat) then .finite negative bits leastExponent
  else if bits < infinityBits then
    .finite negative (2 ^ (52 : Nat) + bits % 2 ^ (52 : Nat))
      (leastExponent + (bits / 2 ^ (52 : Nat) - 1 : Nat))
  else if bits = infinityBits then .infinite negative
  else .nan

def ofBits (bits : Nat) : Binary64 :=
  ofMagnitudeBits (decide (2 ^ (63 : Nat) ≤ bits)) (bits % 2 ^ (63 : Nat))

def of (v : Float) : Binary64 :=
  ofBits v.toBits.toNat

def isFinite : Binary64 → Bool
  | finite _ _ _ => true
  | _ => false

def toFloat (negative : Bool) (bits : Nat) : Float :=
  Float.ofBits (UInt64.ofNat (if negative then 2 ^ (63 : Nat) + bits else bits))

/-- The quotient, to the nearest whole number; a half goes to the even one. -/
def roundHalfEven (num den : Nat) : Nat :=
  let low := num / den
  let left := 2 * (num % den)
  if left < den ∨ left = den ∧ low % 2 = 0 then low else low + 1

/-- The greatest `k` with `2 ^ k ≤ num / den`, for a positive fraction. -/
def floorLog2 (num den : Nat) : Int :=
  let k : Int := num.log2 - den.log2
  if den * 2 ^ k.toNat ≤ num * 2 ^ (-k).toNat then k else k - 1

def exponentAt (num den : Nat) : Int :=
  max (floorLog2 num den - 52) leastExponent

/-- The bits of the number nearest to `num / den`. A significand that is rounded up to `2 ^ 53`
carries into the exponent. -/
def nearestBits (num den : Nat) : Nat :=
  if num = 0 then 0
  else
    let exponent := exponentAt num den
    let significand := roundHalfEven (num * 2 ^ (-exponent).toNat) (den * 2 ^ exponent.toNat)
    min ((exponent - leastExponent).toNat * 2 ^ (52 : Nat) + significand) infinityBits

/-- The number itself, if it is whole, not negative and below `2 ^ 64`. A negative zero counts as
zero. -/
def count? : Binary64 → Option Nat
  | finite negative significand exponent =>
    let num := significand * 2 ^ exponent.toNat
    let den := 2 ^ (-exponent).toNat
    if (negative = true → significand = 0) ∧ num % den = 0 ∧ num / den < 2 ^ (64 : Nat) then
      some (num / den)
    else none
  | _ => none

def wholeBits (bits : Nat) : Nat :=
  if bits < 1023 * 2 ^ (52 : Nat) then 0
  else
    let behind := 2 ^ (1075 - bits / 2 ^ (52 : Nat))
    bits / behind * behind

def wholePart (v : Float) : Float :=
  let bits := v.toBits.toNat
  toFloat (decide (2 ^ (63 : Nat) ≤ bits)) (wholeBits (bits % 2 ^ (63 : Nat)))

def fraction (v : Float) : Float :=
  v - wholePart v

def roundedDown (v : Float) : Float :=
  if v < wholePart v then wholePart v - 1.0 else wholePart v

/-- The greatest word as a float, which has not enough bits for it and rounds it up to `2 ^ 64`. -/
def wordBound : Float :=
  (UInt64.ofNat (UInt64.size - 1)).toFloat

/-- The word that a float is, unless it is negative, out of range or no whole number. -/
def exactWord? (v : Float) : Option UInt64 :=
  if ¬ v.isFinite ∨ v < 0.0 ∨ fraction v != 0.0 ∨ wordBound ≤ v then none
  else some v.toUInt64

end Binary64

end SurfaceLang
