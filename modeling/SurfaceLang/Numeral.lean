import SurfaceLang.Decimal

namespace SurfaceLang

open scoped Powers

inductive NumeralError where
  | empty
  | invalid
  deriving DecidableEq, Repr

def NumeralError.message : NumeralError → String
  | .empty => "cannot parse float from empty string"
  | .invalid => "invalid float literal"

namespace Numeral

def sign : List Char → Bool × List Char
  | '-' :: rest => (true, rest)
  | '+' :: rest => (false, rest)
  | rest => (false, rest)

/-- The value of the digits of an exponent; digits that would make it larger than any exponent
needs to be are passed over. -/
def exponentValue (digits : List Char) : Nat :=
  digits.foldl (fun n c => if n < 2 ^ (16 : Nat) then 10 * n + (c.toNat - '0'.toNat) else n) 0

def exponent? : List Char → Option Int
  | [] => some 0
  | mark :: rest =>
    if mark = 'e' ∨ mark = 'E' then
      let (negative, digits) := sign rest
      if digits ≠ [] ∧ digits.all Char.isDigit then
        some (if negative then -exponentValue digits else exponentValue digits)
      else none
    else none

def places : List Char → List Char × List Char
  | '.' :: rest => (rest.takeWhile Char.isDigit, rest.dropWhile Char.isDigit)
  | rest => ([], rest)

def decimal? (cs : List Char) : Option Decimal :=
  let whole := cs.takeWhile Char.isDigit
  let (fraction, rest) := places (cs.dropWhile Char.isDigit)
  if whole = [] ∧ fraction = [] then none
  else
    (exponent? rest).map fun e =>
      ⟨Nat.ofDigitChars 10 (whole ++ fraction) 0, e - fraction.length⟩

def magnitudeBits? (cs : List Char) : Option Nat :=
  match decimal? cs with
  | some d => some d.bits
  | none =>
    let word := cs.map Char.toLower
    if word = "inf".toList ∨ word = "infinity".toList then some Binary64.infinityBits
    else if word = "nan".toList then some (Binary64.infinityBits + 2 ^ (51 : Nat))
    else none

end Numeral

def readFloat (text : String) : Except NumeralError Float :=
  if text.isEmpty then .error .empty
  else
    let (negative, rest) := Numeral.sign text.toList
    match Numeral.magnitudeBits? rest with
    | some bits => .ok (Binary64.toFloat negative bits)
    | none => .error .invalid

end SurfaceLang
