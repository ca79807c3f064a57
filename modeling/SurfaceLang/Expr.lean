import SurfaceLang.Report

namespace SurfaceLang

inductive Var where
  | x
  | y
  deriving DecidableEq, Repr

namespace Var

def name : Var → String
  | x => "X"
  | y => "Y"

def symbol : Var → String
  | x => "x"
  | y => "y"

def ofKind? : TokenKind → Option Var
  | .varX => some x
  | .varY => some y
  | _ => none

end Var

inductive BinaryOp where
  | add
  | sub
  | mul
  | div
  | pow
  | root
  deriving DecidableEq, Repr

namespace BinaryOp

def symbol : BinaryOp → String
  | add => "+"
  | sub => "-"
  | mul => "*"
  | div => "/"
  | pow => "**"
  | root => "//"

def ofKind? : TokenKind → Option BinaryOp
  | .plus => some add
  | .minus => some sub
  | .times => some mul
  | .divide => some div
  | .power => some pow
  | .root => some root
  | _ => none

end BinaryOp

inductive Function where
  | sin
  | cos
  | tan
  deriving DecidableEq, Repr

namespace Function

def name : Function → String
  | sin => "sin"
  | cos => "cos"
  | tan => "tan"

def ofKind? : TokenKind → Option Function
  | .sin => some sin
  | .cos => some cos
  | .tan => some tan
  | _ => none

end Function

/-- Equality `==` of expressions compares literals as numbers, so it does not tell `0` from
`-0`. -/
inductive Expr where
  | literal (value : Float)
  | var (name : Var)
  | negate (operand : Expr)
  | binary (op : BinaryOp) (left right : Expr)
  | call (function : Function) (argument : Expr)
  deriving BEq, DecidableEq

namespace Expr

@[simp]
theorem literal_beq_iff {v : Float} {f : Expr} :
    (literal v == f) = true ↔ ∃ w, literal w = f ∧ (v == w) = true := by
  cases f with
  | literal w => exact ⟨fun same => ⟨w, rfl, same⟩, fun ⟨_, rfl, same⟩ => same⟩
  | _ => exact ⟨nofun, nofun⟩

@[simp]
theorem var_beq_iff {name : Var} {f : Expr} : (var name == f) = true ↔ var name = f := by
  cases f with
  | var other =>
    show (name == other) = true ↔ _
    rw [beq_iff_eq, var.injEq]
  | _ => exact ⟨nofun, nofun⟩

@[simp]
theorem negate_beq_iff {a f : Expr} :
    (negate a == f) = true ↔ ∃ b, negate b = f ∧ (a == b) = true := by
  cases f with
  | negate b => exact ⟨fun same => ⟨b, rfl, same⟩, fun ⟨_, rfl, same⟩ => same⟩
  | _ => exact ⟨nofun, nofun⟩

@[simp]
theorem binary_beq_iff {op : BinaryOp} {a b f : Expr} :
    (binary op a b == f) = true ↔
      ∃ c d, binary op c d = f ∧ (a == c) = true ∧ (b == d) = true := by
  cases f with
  | binary other c d =>
    show (op == other && (a == c && b == d)) = true ↔ _
    simp [and_assoc]
  | _ => exact ⟨nofun, nofun⟩

@[simp]
theorem call_beq_iff {function : Function} {a f : Expr} :
    (call function a == f) = true ↔ ∃ b, call function b = f ∧ (a == b) = true := by
  cases f with
  | call other b =>
    show (function == other && a == b) = true ↔ _
    simp [and_assoc]
  | _ => exact ⟨nofun, nofun⟩

end Expr

structure Surface where
  parts : List Expr
  deriving BEq, DecidableEq

def negated (v : Float) : Float :=
  -1.0 * v

/-- The root of the given degree, as the power by the reciprocal degree; so a negative number has
no third root. -/
def nthRoot (base degree : Float) : Float :=
  base.pow (1.0 / degree)

def BinaryOp.apply : BinaryOp → Float → Float → Float
  | .add, a, b => a + b
  | .sub, a, b => a - b
  | .mul, a, b => a * b
  | .div, a, b => a / b
  | .pow, a, b => a.pow b
  | .root, a, b => nthRoot a b

def Function.apply : Function → Float → Float
  | .sin, a => a.sin
  | .cos, a => a.cos
  | .tan, a => a.tan

def Expr.eval (x y : Float) : Expr → Float
  | .literal value => value
  | .var .x => x
  | .var .y => y
  | .negate operand => negated (operand.eval x y)
  | .binary op left right => op.apply (left.eval x y) (right.eval x y)
  | .call function argument => function.apply (argument.eval x y)

/-- The sum of the parts, which is `-0` when there are none. -/
def Surface.eval (x y : Float) (s : Surface) : Float :=
  s.parts.foldl (fun sum part => sum + part.eval x y) (-0.0)

def finiteValue (text : String) : Except NodeError Float :=
  match readFloat text with
  | .error cause => .error (.noNumeral text cause)
  | .ok value =>
    if (Binary64.of value).isFinite then .ok value else .error (.outOfRange text)

namespace Expr

def ofNumber (token : Token) : Except NodeError Expr :=
  if token.kind = .number then (finiteValue token.text).map literal
  else .error (.wrongToken .literal token)

def ofVariable (token : Token) : Except NodeError Expr :=
  match Var.ofKind? token.kind with
  | some name => .ok (var name)
  | none => .error (.wrongToken .variable token)

def ofOperator (left : Expr) (token : Token) (right : Expr) : Except NodeError Expr :=
  match BinaryOp.ofKind? token.kind with
  | some op => .ok (binary op left right)
  | none => .error (.wrongToken .binary token)

def ofFunction (token : Token) (argument : Expr) : Except NodeError Expr :=
  match Function.ofKind? token.kind with
  | some function => .ok (call function argument)
  | none => .error (.wrongToken .function token)

end Expr

end SurfaceLang
