import Mathlib.Data.List.TakeWhile
import SurfaceLang.Numeral
import SurfaceLang.Proofs.FloatBits
import SurfaceLang.Proofs.Nearest

namespace SurfaceLang

open Numeral

def AreDigits (cs : List Char) : Prop :=
  ∀ c ∈ cs, c.isDigit = true

inductive IsNumeral : List Char → Prop where
  | whole {whole : List Char} (nonempty : whole ≠ []) (digits : AreDigits whole) : IsNumeral whole
  | point {whole places : List Char} (nonempty : whole ≠ []) (digits : AreDigits whole)
      (fraction : AreDigits places) : IsNumeral (whole ++ '.' :: places)

def numeralValue (whole places : List Char) : Decimal :=
  ⟨Nat.ofDigitChars 10 (whole ++ places) 0, 0 - places.length⟩

theorem decimal?_of_whole {whole : List Char} (nonempty : whole ≠ []) (digits : AreDigits whole) :
    decimal? whole = some (numeralValue whole []) := by
  have kept : whole.takeWhile Char.isDigit = whole := List.takeWhile_eq_self_iff.mpr digits
  have rest : whole.dropWhile Char.isDigit = [] := List.dropWhile_eq_nil_iff.mpr digits
  simp [decimal?, kept, rest, places, nonempty, exponent?, numeralValue]

theorem decimal?_of_point {whole fraction : List Char} (nonempty : whole ≠ [])
    (digits : AreDigits whole) (fractionDigits : AreDigits fraction) :
    decimal? (whole ++ '.' :: fraction) = some (numeralValue whole fraction) := by
  have kept : (whole ++ '.' :: fraction).takeWhile Char.isDigit = whole := by
    rw [List.takeWhile_append_of_pos digits]
    simp
  have rest : (whole ++ '.' :: fraction).dropWhile Char.isDigit = '.' :: fraction := by
    rw [List.dropWhile_append_of_pos digits]
    simp
  have fractionKept := List.takeWhile_eq_self_iff.mpr fractionDigits
  have fractionRest := List.dropWhile_eq_nil_iff.mpr fractionDigits
  simp [decimal?, kept, rest, places, nonempty, exponent?, numeralValue, fractionKept, fractionRest]

theorem sign_of_isDigit {d : Char} {cs : List Char} (digit : d.isDigit = true) :
    sign (d :: cs) = (false, d :: cs) := by
  unfold sign
  split
  · rename_i eq
    cases eq
    cases digit
  · rename_i eq
    cases eq
    cases digit
  · rfl

theorem IsNumeral.head {cs : List Char} (numeral : IsNumeral cs) :
    ∃ d rest, cs = d :: rest ∧ d.isDigit = true := by
  cases numeral with
  | whole nonempty digits =>
    obtain ⟨d, rest, rfl⟩ := List.exists_cons_of_ne_nil nonempty
    exact ⟨d, rest, rfl, digits d List.mem_cons_self⟩
  | point nonempty digits fraction =>
    obtain ⟨d, rest, rfl⟩ := List.exists_cons_of_ne_nil nonempty
    exact ⟨d, _, rfl, digits d List.mem_cons_self⟩

theorem IsNumeral.readFloat_eq {cs : List Char} {d : Decimal} (numeral : IsNumeral cs)
    (value : decimal? cs = some d) :
    readFloat (String.ofList cs) = .ok (Binary64.toFloat false d.bits) := by
  obtain ⟨first, rest, rfl, digit⟩ := numeral.head
  simp [readFloat, sign_of_isDigit digit, magnitudeBits?, value]

theorem Decimal.bits_le (d : Decimal) : d.bits ≤ Binary64.infinityBits := by
  unfold bits Binary64.nearestBits
  split
  · exact Nat.zero_le _
  · exact Nat.min_le_right _ _

theorem IsNumeral.exists_value {cs : List Char} (numeral : IsNumeral cs) :
    ∃ bits ≤ Binary64.infinityBits,
      readFloat (String.ofList cs) = .ok (Binary64.toFloat false bits) := by
  cases numeral with
  | whole nonempty digits =>
    have value := decimal?_of_whole nonempty digits
    exact ⟨_, Decimal.bits_le _, IsNumeral.readFloat_eq (.whole nonempty digits) value⟩
  | point nonempty digits fraction =>
    have value := decimal?_of_point nonempty digits fraction
    exact ⟨_, Decimal.bits_le _, IsNumeral.readFloat_eq (.point nonempty digits fraction) value⟩

theorem areDigits_toDigits (n : Nat) : AreDigits (Nat.toDigits 10 n) :=
  fun _ member => Nat.isDigit_of_mem_toDigits (by decide) (by decide) member

theorem areDigits_replicate (n : Nat) {d : Char} (digit : d.isDigit = true) :
    AreDigits (List.replicate n d) := by
  intro c member
  rw [List.eq_of_mem_replicate member]
  exact digit

theorem AreDigits.append {cs ds : List Char} (left : AreDigits cs) (right : AreDigits ds) :
    AreDigits (cs ++ ds) := by
  intro c member
  rcases List.mem_append.mp member with inside | inside
  · exact left c inside
  · exact right c inside

theorem Decimal.text_spec (d : Decimal) :
    IsNumeral d.text ∧ ∃ e, decimal? d.text = some e ∧ e.bits = d.bits := by
  have digits := areDigits_toDigits d.digits
  unfold Decimal.text
  dsimp only
  split <;> rename_i sign
  -- Without places the zeros stand for the exponent; else the point is set by their number.
  · have whole := digits.append (areDigits_replicate d.exponent.toNat (d := '0') rfl)
    have nonempty : Nat.toDigits 10 d.digits ++ List.replicate d.exponent.toNat '0' ≠ [] :=
      List.append_ne_nil_of_left_ne_nil Nat.toDigits_ne_nil _
    refine ⟨.whole nonempty whole, _, decimal?_of_whole nonempty whole, ?_⟩
    have noPlaces : (-d.exponent).toNat = 0 := by omega
    simp [numeralValue, Decimal.bits, Nat.ofDigitChars_append, noPlaces, Nat.mul_comm]
  · have shift : d.exponent = 0 - ((-d.exponent).toNat : Int) := by omega
    generalize (-d.exponent).toNat = count at shift ⊢
    have padded :=
      (areDigits_replicate (count + 1 - (Nat.toDigits 10 d.digits).length) (d := '0') rfl).append digits
    have long : count + 1 ≤ (List.replicate (count + 1 - (Nat.toDigits 10 d.digits).length) '0' ++
        Nat.toDigits 10 d.digits).length := by
      rw [List.length_append, List.length_replicate]
      omega
    have value : Nat.ofDigitChars 10 (List.replicate
        (count + 1 - (Nat.toDigits 10 d.digits).length) '0' ++ Nat.toDigits 10 d.digits) 0 =
        d.digits := by
      simp [Nat.ofDigitChars_append, Nat.ofDigitChars_ten_toDigits]
    generalize List.replicate _ '0' ++ Nat.toDigits 10 d.digits = all at padded long value ⊢
    have before : AreDigits (all.take (all.length - count)) :=
      fun c member => padded c (List.mem_of_mem_take member)
    have behind : AreDigits (all.drop (all.length - count)) :=
      fun c member => padded c (List.mem_of_mem_drop member)
    have nonempty : all.take (all.length - count) ≠ [] := by
      apply List.ne_nil_of_length_pos
      rw [List.length_take]
      omega
    have same : numeralValue (all.take (all.length - count)) (all.drop (all.length - count)) =
        d := by
      have places : all.length - (all.length - count) = count := by omega
      rw [numeralValue, List.take_append_drop, value, List.length_drop, places, ← shift]
    exact ⟨.point nonempty before behind, d, same ▸ decimal?_of_point nonempty before behind, rfl⟩

theorem Decimal.bits_exact {s bits : ℕ} {p : ℤ} {sign negative : Bool}
    (finite : Binary64.ofMagnitudeBits negative bits = .finite sign s p) :
    (exact s p).bits = bits := by
  obtain ⟨_, canonical, bits_eq, small⟩ := Binary64.canonical_of_ofMagnitudeBits finite
  unfold exact Decimal.bits
  dsimp only
  rw [bits_eq] at small ⊢
  refine Binary64.nearestBits_eq (by positivity) ?_ canonical small
  have noPower : (min p 0).toNat = 0 := by omega
  have places : (-min p 0).toNat = (-p).toNat := by omega
  have ten : (10 : ℚ) ^ (-p).toNat = 2 ^ (-p).toNat * 5 ^ (-p).toNat := by
    rw [← mul_pow]
    norm_num
  rw [noPower, places, Binary64.zpow_eq_div]
  push_cast
  rw [ten]
  field_simp

theorem Decimal.bits_firstReading {target s : ℕ} {p : ℤ} {last : Decimal}
    (reads : last.bits = target) (steps : ℕ) (exponent : ℤ) :
    (firstReading target s p last steps exponent).bits = target := by
  induction steps generalizing exponent with
  | zero => exact reads
  | succ steps ih =>
    rw [firstReading]
    split <;> rename_i found
    · have matched := List.find?_some found
      exact eq_of_beq matched
    · exact ih (exponent - 1)

/-- The text of a number without a sign is a numeral, and it is read as the number. -/
theorem floatText_spec {v : Float} {s : ℕ} {p : ℤ} (finite : Binary64.of v = .finite false s p) :
    IsNumeral (floatText v).toList ∧ readFloat (floatText v) = .ok v := by
  obtain ⟨bits, small⟩ := Binary64.magnitude_of_finite finite
  obtain ⟨_, canonical, bits_eq, _⟩ := Binary64.canonical_of_ofMagnitudeBits bits
  have positive : v.toBits.toNat < 2 ^ 63 := Nat.lt_trans small (by decide)
  unfold floatText
  rw [finite]
  by_cases zero : s = 0
  · have none : v.toBits.toNat = 0 := by
      have least := canonical.2.2 (by omega)
      rw [bits_eq, zero, least]
      rfl
    have digits : AreDigits ['0'] := by simp [AreDigits]
    have numeral : IsNumeral ['0'] := .whole nofun digits
    have read := numeral.readFloat_eq (decimal?_of_whole nofun digits)
    have value : (numeralValue ['0'] []).bits = v.toBits.toNat := by
      rw [none]
      rfl
    rw [value, Binary64.toFloat_toBits] at read
    simp only [zero, if_true, Bool.false_eq_true, if_false, String.toList_ofList]
    exact ⟨numeral, read⟩
  · obtain ⟨numeral, d, value, same⟩ :=
      (Decimal.shortest (v.toBits.toNat % 2 ^ 63) s p).text_spec
    have read := numeral.readFloat_eq value
    have shortest : (Decimal.shortest (v.toBits.toNat % 2 ^ 63) s p).bits = v.toBits.toNat := by
      rw [Nat.mod_eq_of_lt positive]
      exact Decimal.bits_firstReading (Decimal.bits_exact bits) _ _
    rw [same, shortest, Binary64.toFloat_toBits] at read
    simp only [zero, Bool.false_eq_true, if_false, String.toList_ofList]
    exact ⟨numeral, read⟩

def isNumberCharacter (c : Char) : Bool :=
  c.isDigit || ['-', '.', 'N', 'a', 'i', 'n', 'f'].contains c

theorem AreDigits.all_isNumberCharacter {cs : List Char} (digits : AreDigits cs) :
    cs.all isNumberCharacter = true := by
  rw [List.all_eq_true]
  intro c member
  rw [isNumberCharacter, digits c member, Bool.true_or]

theorem IsNumeral.all_isNumberCharacter {cs : List Char} (numeral : IsNumeral cs) :
    cs.all isNumberCharacter = true := by
  cases numeral with
  | whole nonempty digits => exact digits.all_isNumberCharacter
  | point nonempty digits fraction =>
    rw [List.all_append, List.all_cons, digits.all_isNumberCharacter,
      fraction.all_isNumberCharacter]
    rfl

theorem all_isNumberCharacter_floatText (v : Float) :
    (floatText v).toList.all isNumberCharacter = true := by
  unfold floatText
  split
  · decide
  · split <;> decide
  · rename_i negative s p finite
    have magnitude : (if s = 0 then ['0'] else
        (Decimal.shortest (v.toBits.toNat % 2 ^ 63) s p).text).all isNumberCharacter = true := by
      split
      · decide
      · exact (Decimal.text_spec _).1.all_isNumberCharacter
    rw [String.toList_ofList]
    split
    · rw [List.all_cons, magnitude]
      rfl
    · exact magnitude

theorem notMem_floatText {c : Char} (other : isNumberCharacter c = false) (v : Float) :
    c ∉ (floatText v).toList := by
  intro member
  rw [List.all_eq_true.mp (all_isNumberCharacter_floatText v) c member] at other
  cases other

end SurfaceLang
