import SurfaceLang.Binary64

namespace SurfaceLang

open scoped Powers

structure Decimal where
  digits : Nat
  exponent : Int
  deriving DecidableEq, Repr

namespace Decimal

def bits (d : Decimal) : Nat :=
  Binary64.nearestBits (d.digits * 10 ^ d.exponent.toNat) (10 ^ (-d.exponent).toNat)

def digitCount (n : Nat) : Nat :=
  (Nat.toDigits 10 n).length

/-- An exponent at which `significand * 2 ^ exponent` is at most a single unit. -/
def coarsest (significand : Nat) (exponent : Int) : Int :=
  let num := significand * 2 ^ exponent.toNat
  let den := 2 ^ (-exponent).toNat
  if den ≤ num then digitCount (num / den) else 1 - digitCount (den / num)

/-- The whole numbers on both sides of a fraction, the nearer one first; from the middle the upper
one counts as nearer. -/
def neighbours (num den : Nat) : List Nat :=
  let low := num / den
  if 2 * (num % den) < den then [low, low + 1] else [low + 1, low]

def around (significand : Nat) (power exponent : Int) : List Decimal :=
  (neighbours (significand * 2 ^ power.toNat * 10 ^ (-exponent).toNat)
    (2 ^ (-power).toNat * 10 ^ exponent.toNat)).map (⟨·, exponent⟩)

/-- The first decimal that reads as `target`, of those around `significand * 2 ^ power` with the
exponents `exponent`, `exponent - 1` and so on, `steps` of them, or else `last`. -/
def firstReading (target significand : Nat) (power : Int) (last : Decimal) :
    Nat → Int → Decimal
  | 0, _ => last
  | steps + 1, exponent =>
    match (around significand power exponent).find? fun d => d.bits == target with
    | some d => d
    | none => firstReading target significand power last steps (exponent - 1)

def exact (significand : Nat) (power : Int) : Decimal :=
  ⟨significand * 2 ^ power.toNat * 5 ^ (-power).toNat, min power 0⟩

/-- The fewest digits that read as `target`, the bits of `significand * 2 ^ power`. -/
def shortest (target significand : Nat) (power : Int) : Decimal :=
  let top := coarsest significand power
  firstReading target significand power (exact significand power)
    (top - min power 0).toNat top

def text (d : Decimal) : List Char :=
  let digits := Nat.toDigits 10 d.digits
  if 0 ≤ d.exponent then digits ++ List.replicate d.exponent.toNat '0'
  else
    let places := (-d.exponent).toNat
    let padded := List.replicate (places + 1 - digits.length) '0' ++ digits
    padded.take (padded.length - places) ++ '.' :: padded.drop (padded.length - places)

end Decimal

/-- The text of a floating point number: the fewest digits that read back as it, never with an
exponent. -/
def floatText (v : Float) : String :=
  match Binary64.of v with
  | .nan => "NaN"
  | .infinite negative => if negative then "-inf" else "inf"
  | .finite negative significand power =>
    let magnitude :=
      if significand = 0 then ['0']
      else (Decimal.shortest (v.toBits.toNat % 2 ^ (63 : Nat)) significand power).text
    String.ofList (if negative then '-' :: magnitude else magnitude)

end SurfaceLang
