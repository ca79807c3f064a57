import SurfaceLang.Numeral
import SurfaceLang.Text.Basic

namespace SurfaceLang

inductive AxisError where
  | format (text : String)
  | notFinite (text : String)
  | reversed (min max : Float)
  | badStep (step : Float)
  | tooManySamples (limit : Nat)
  deriving DecidableEq

def AxisError.message : AxisError → String
  | .format text => "expected MIN:MAX:STEP, found '" ++ text ++ "'"
  | .notFinite text => "'" ++ text ++ "' is not a finite number"
  | .reversed min max =>
    "minimum " ++ floatText min ++ " is greater than maximum " ++ floatText max
  | .badStep step => "step must be positive, found " ++ floatText step
  | .tooManySamples limit => "range has more than " ++ toString limit ++ " samples per axis"

/-- `count` samples from `min` on, at a distance of `step`. -/
structure Axis where
  min : Float
  step : Float
  count : Nat
  deriving DecidableEq

namespace Axis

def maxSamples : Nat := 10000

def steps? (min max step : Float) : Option Nat :=
  (Binary64.exactWord? (Binary64.roundedDown ((max - min) / step))).map UInt64.toNat

def word? (n : Nat) : Option Nat :=
  if n < UInt32.size then some n else none

def sampleCount? (min max step : Float) : Option Nat :=
  (steps? min max step >>= word? >>= fun steps => word? (steps + 1)).filter (· ≤ maxSamples)

def ofBounds (min max step : Float) : Except AxisError Axis :=
  if ¬ (Binary64.of min).isFinite then .error (.notFinite (floatText min))
  else if ¬ (Binary64.of max).isFinite then .error (.notFinite (floatText max))
  else if max < min then .error (.reversed min max)
  else if ¬ (Binary64.of step).isFinite ∨ step ≤ 0.0 then .error (.badStep step)
  else
    match sampleCount? min max step with
    | some count => .ok ⟨min, step, count⟩
    | none => .error (.tooManySamples maxSamples)

def sample (axis : Axis) (i : Nat) : Float :=
  axis.min + axis.step * Float.ofNat i

def samples (axis : Axis) : List Float :=
  (List.range axis.count).map axis.sample

def finitePart (part : List Char) : Except AxisError Float :=
  match readFloat (String.ofList (Text.trim part)) with
  | .ok value =>
    if (Binary64.of value).isFinite then .ok value
    else .error (.notFinite (String.ofList part))
  | .error _ => .error (.notFinite (String.ofList part))

def ofText (text : String) : Except AxisError Axis :=
  match Text.split ':' text.toList with
  | [min, max, step] => do
    let min ← finitePart min
    let max ← finitePart max
    let step ← finitePart step
    ofBounds min max step
  | _ => .error (.format text)

end Axis

end SurfaceLang
