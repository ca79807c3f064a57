import SurfaceLang.Proofs.Cut
import SurfaceLang.Proofs.FloatText
import SurfaceLang.Proofs.Sampling

namespace SurfaceLang

namespace Text

open Lexing (AreBlank)

variable {separator : Char}

theorem split_of_notMem {cs : List Char} (absent : separator ∉ cs) :
    split separator cs = [cs] := by
  induction cs with
  | nil => rfl
  | cons c cs ih =>
    rw [List.mem_cons, not_or] at absent
    rw [split, if_neg (Ne.symm absent.1), ih absent.2]

theorem split_append_cons {cs : List Char} (absent : separator ∉ cs) (rest : List Char) :
    split separator (cs ++ separator :: rest) = cs :: split separator rest := by
  induction cs with
  | nil => rw [List.nil_append, split, if_pos rfl]
  | cons c cs ih =>
    rw [List.mem_cons, not_or] at absent
    rw [List.cons_append, split, if_neg (Ne.symm absent.1), ih absent.2]

theorem length_split (separator : Char) (cs : List Char) :
    (split separator cs).length = cs.count separator + 1 := by
  induction cs with
  | nil => rfl
  | cons c cs ih =>
    rw [split, List.count_cons]
    by_cases found : c = separator
    · simp [found, ih]
    · cases parts : split separator cs with
      | nil =>
        rw [parts] at ih
        cases ih
      | cons part others =>
        rw [parts] at ih
        simpa [found] using ih

theorem dropWhile_blank_append {blanks cs : List Char} (blank : AreBlank blanks)
    (noBlank : ∀ c ∈ cs.head?, isBlank c = false) : (blanks ++ cs).dropWhile isBlank = cs := by
  rw [List.dropWhile_append_of_pos blank]
  cases cs with
  | nil => rfl
  | cons c cs => exact List.dropWhile_cons_of_neg (by simpa using noBlank c rfl)

theorem trim_padded {before cs after : List Char} (leading : AreBlank before)
    (trailing : AreBlank after) (nonempty : cs ≠ []) (noBlank : ∀ c ∈ cs, isBlank c = false) :
    trim (before ++ cs ++ after) = cs := by
  obtain ⟨first, rest, rfl⟩ := List.exists_cons_of_ne_nil nonempty
  have front : (before ++ (first :: rest ++ after)).dropWhile isBlank = first :: rest ++ after :=
    dropWhile_blank_append leading fun c member => by
      cases member
      exact noBlank first List.mem_cons_self
  have back : (after.reverse ++ (first :: rest).reverse).dropWhile isBlank =
      (first :: rest).reverse :=
    dropWhile_blank_append (fun c member => trailing c (List.mem_reverse.mp member))
      fun c member => noBlank c (List.mem_reverse.mp (List.mem_of_head? member))
  rw [trim, List.append_assoc, front, List.reverse_append, back, List.reverse_reverse]

end Text

theorem isBlank_eq_false_of_isNumberCharacter {c : Char} (number : isNumberCharacter c = true) :
    Text.isBlank c = false := by
  rw [isNumberCharacter, Bool.or_eq_true] at number
  rcases number with digit | other
  · exact Lexing.isBlank_eq_false_of_isDigit digit
  · have known : ['-', '.', 'N', 'a', 'i', 'n', 'f'].all (!Text.isBlank ·) = true := by decide
    simpa using List.all_eq_true.mp known c (List.contains_iff_mem.mp other)

theorem toList_floatText_ne_nil (v : Float) : (floatText v).toList ≠ [] := by
  intro nothing
  have read := readFloat_floatText v
  rw [String.toList_eq_nil_iff.mp nothing] at read
  cases read

namespace Axis

open Binary64 Lexing Text

/-- A part of a text between colons: the text of a number, with blanks around it. -/
structure Holds (part : List Char) (v : Float) : Prop where
  trimmed : trim part = (floatText v).toList
  noColon : ':' ∉ part

theorem colon_notMem_of_areBlank {cs : List Char} (blank : AreBlank cs) : ':' ∉ cs := by
  intro member
  cases blank ':' member

theorem Holds.padded {before after : List Char} (leading : AreBlank before)
    (trailing : AreBlank after) (v : Float) :
    Holds (before ++ (floatText v).toList ++ after) v where
  trimmed := by
    refine trim_padded leading trailing (toList_floatText_ne_nil v) fun c member => ?_
    have number := List.all_eq_true.mp (all_isNumberCharacter_floatText v) c member
    exact isBlank_eq_false_of_isNumberCharacter number
  noColon := by
    have noColon := notMem_floatText (c := ':') rfl v
    simp [colon_notMem_of_areBlank leading, colon_notMem_of_areBlank trailing, noColon]

theorem Holds.plain (v : Float) : Holds (floatText v).toList v := by
  simpa using Holds.padded areBlank_nil areBlank_nil v

theorem Holds.finitePart_of_value {part : List Char} {v : Float} {q : ℚ} (holds : Holds part v)
    (value : valueOf v = some q) : finitePart part = .ok v := by
  have finite : (of v).isFinite = true := (isFinite_iff _).mpr ⟨q, value⟩
  rw [finitePart, holds.trimmed, String.ofList_toList, readFloat_floatText]
  exact if_pos finite

theorem Holds.finitePart_of_none {part : List Char} {v : Float} (holds : Holds part v)
    (noValue : valueOf v = none) :
    finitePart part = .error (.notFinite (String.ofList part)) := by
  rw [finitePart, holds.trimmed, String.ofList_toList, readFloat_floatText]
  exact if_neg ((not_isFinite_iff v).mpr noValue)

def ofParts (first second third : List Char) : Except AxisError Axis := do
  let min ← finitePart first
  let max ← finitePart second
  let step ← finitePart third
  ofBounds min max step

theorem ofText_of_split {text : String} {first second third : List Char}
    (parts : split ':' text.toList = [first, second, third]) :
    ofText text = ofParts first second third := by
  rw [ofText, parts]
  rfl

theorem ofText_of_three {text : String} {first second third : List Char}
    (whole : text.toList = first ++ ':' :: (second ++ ':' :: third)) (noFirst : ':' ∉ first)
    (noSecond : ':' ∉ second) (noThird : ':' ∉ third) :
    ofText text = ofParts first second third := by
  apply ofText_of_split
  rw [whole, split_append_cons noFirst, split_append_cons noSecond, split_of_notMem noThird]

section

variable {min max step : Float} {first second third : List Char} (minHolds : Holds first min)
  (maxHolds : Holds second max) (stepHolds : Holds third step)

include minHolds maxHolds stepHolds

theorem ofParts_of_values {least greatest gap : ℚ} (minValue : valueOf min = some least)
    (maxValue : valueOf max = some greatest) (stepValue : valueOf step = some gap) :
    ofParts first second third = ofBounds min max step := by
  rw [ofParts, minHolds.finitePart_of_value minValue, maxHolds.finitePart_of_value maxValue,
    stepHolds.finitePart_of_value stepValue]
  rfl

omit minHolds maxHolds in
theorem ofParts_plain {gap : ℚ} (stepValue : valueOf step = some gap) :
    ofParts (floatText min).toList (floatText max).toList third = ofBounds min max step := by
  have minPart := Holds.plain min
  have maxPart := Holds.plain max
  cases minValue : valueOf min with
  | none =>
    rw [ofParts, minPart.finitePart_of_none minValue, String.ofList_toList]
    exact (Decided.minNotFinite minValue).ofBounds_eq.symm
  | some least =>
    cases maxValue : valueOf max with
    | none =>
      rw [ofParts, minPart.finitePart_of_value minValue, maxPart.finitePart_of_none maxValue,
        String.ofList_toList]
      exact (Decided.maxNotFinite minValue maxValue).ofBounds_eq.symm
    | some greatest =>
      exact ofParts_of_values minPart maxPart stepHolds minValue maxValue stepValue

end

theorem finitePart_ne_format (part : List Char) (text : String) :
    finitePart part ≠ .error (.format text) := by
  unfold finitePart
  split
  · split <;> exact nofun
  · exact nofun

theorem ofBounds_ne_format (min max step : Float) (text : String) :
    ofBounds min max step ≠ .error (.format text) := by
  intro made
  have decided := decided_ofBounds min max step
  rw [made] at decided
  cases decided

theorem bind_ne_error {ε α β : Type} {x : Except ε α} {f : α → Except ε β} {e : ε}
    (first : x ≠ .error e) (next : ∀ a, f a ≠ .error e) : (x >>= f) ≠ .error e := by
  cases x with
  | error other =>
    intro eq
    cases eq
    exact first rfl
  | ok a => exact next a

theorem ofParts_ne_format (first second third : List Char) (text : String) :
    ofParts first second third ≠ .error (.format text) := by
  refine bind_ne_error (finitePart_ne_format first text) fun min => ?_
  refine bind_ne_error (finitePart_ne_format second text) fun max => ?_
  refine bind_ne_error (finitePart_ne_format third text) fun step => ?_
  exact ofBounds_ne_format min max step text

theorem ofText_eq_format_iff (text reported : String) :
    ofText text = .error (.format reported) ↔
      reported = text ∧ text.toList.count ':' ≠ 2 := by
  have length := length_split ':' text.toList
  by_cases two : text.toList.count ':' = 2
  · obtain ⟨first, second, third, parts⟩ := List.length_eq_three.mp (length.trans (by rw [two]))
    rw [ofText_of_split parts]
    simp [two, ofParts_ne_format]
  · rw [ofText]
    split
    · rename_i parts
      rw [parts] at length
      simp at length
      omega
    · simp [two, eq_comm]

/-- The text of three numbers with colons between them gives what the numbers give, whatever the
limits are, as long as the step is finite. If all three are, there may be blanks around each. A text
is refused for its form just if it does not have two colons. -/
theorem ofText_agrees_with_ofBounds :
    (∀ min max step : Float, (of step).isFinite = true →
      ofText (floatText min ++ ":" ++ floatText max ++ ":" ++ floatText step) =
        ofBounds min max step) ∧
    (∀ min max step : Float, (of min).isFinite = true → (of max).isFinite = true →
      (of step).isFinite = true → ∀ a b c d e f : String,
      (∀ blanks ∈ [a, b, c, d, e, f], AreBlank blanks.toList) →
      ofText (a ++ floatText min ++ b ++ ":" ++ c ++ floatText max ++ d ++ ":" ++ e ++
        floatText step ++ f) = ofBounds min max step) ∧
    ∀ text reported : String, ofText text = .error (.format reported) ↔
      reported = text ∧ text.toList.count ':' ≠ 2 := by
  refine ⟨?_, ?_, ofText_eq_format_iff⟩
  · intro min max step stepFinite
    obtain ⟨gap, stepValue⟩ := (isFinite_iff _).mp stepFinite
    have stepHolds := Holds.plain step
    rw [← ofParts_plain stepHolds stepValue]
    exact ofText_of_three (by simp) (Holds.plain min).noColon (Holds.plain max).noColon
      stepHolds.noColon
  · intro min max step minFinite maxFinite stepFinite a b c d e f blank
    obtain ⟨least, minValue⟩ := (isFinite_iff _).mp minFinite
    obtain ⟨greatest, maxValue⟩ := (isFinite_iff _).mp maxFinite
    obtain ⟨gap, stepValue⟩ := (isFinite_iff _).mp stepFinite
    simp only [List.forall_mem_cons, List.not_mem_nil, false_implies, implies_true, and_true]
      at blank
    obtain ⟨aBlank, bBlank, cBlank, dBlank, eBlank, fBlank⟩ := blank
    have minHolds := Holds.padded aBlank bBlank min
    have maxHolds := Holds.padded cBlank dBlank max
    have stepHolds := Holds.padded eBlank fBlank step
    rw [← ofParts_of_values minHolds maxHolds stepHolds minValue maxValue stepValue]
    exact ofText_of_three (by simp) minHolds.noColon maxHolds.noColon stepHolds.noColon

theorem ofText_agrees_on_halves :
    ((of 0.5).isFinite = true ∧
      ofText (floatText (-1) ++ ":" ++ floatText (1 / 0) ++ ":" ++ floatText 0.5) =
        ofBounds (-1) (1 / 0) 0.5) ∧
    ((of (-1)).isFinite = true ∧ (of 2).isFinite = true ∧
      (∀ blanks ∈ ["\t", " ", "", "\n", "", "  "], AreBlank blanks.toList) ∧
      ofText ("\t" ++ floatText (-1) ++ " " ++ ":" ++ "" ++ floatText 2 ++ "\n" ++ ":" ++ "" ++
        floatText 0.5 ++ "  ") = ofBounds (-1) 2 0.5) ∧
    (ofText "0:1" = .error (.format "0:1") ↔ "0:1" = "0:1" ∧ "0:1".toList.count ':' ≠ 2) := by
  have stepFinite : (of 0.5).isFinite = true := by decide +kernel
  have minFinite : (of (-1)).isFinite = true := by decide +kernel
  have maxFinite : (of 2).isFinite = true := by decide +kernel
  have blank : ∀ blanks ∈ ["\t", " ", "", "\n", "", "  "], AreBlank blanks.toList := by
    simp [AreBlank]
    decide
  obtain ⟨plain, spaced, form⟩ := ofText_agrees_with_ofBounds
  exact ⟨⟨stepFinite, plain (-1) (1 / 0) 0.5 stepFinite⟩, ⟨minFinite, maxFinite, blank,
    spaced (-1) 2 0.5 minFinite maxFinite stepFinite _ _ _ _ _ _ blank⟩, form "0:1" "0:1"⟩

/-- The ways part where the step is not finite: the text is refused before it comes to the limits. -/
example : ofText "1:0:inf" = .error (.notFinite "inf") ∧
    ofBounds 1 0 (1 / 0) = .error (.reversed 1 0) := by decide +kernel

end Axis

end SurfaceLang
