import SurfaceLang.Decimal
import SurfaceLang.Expr

namespace SurfaceLang

namespace Expr

/-- Whether a minus sign in front binds the whole text of the expression. -/
def isTight : Expr → Bool
  | literal _ | var _ | call _ _ => true
  | negate _ | binary _ _ _ => false

def text : Expr → String
  | literal value => floatText value
  | var name => name.symbol
  | negate operand =>
    if operand.isTight then "-" ++ operand.text else "-(" ++ operand.text ++ ")"
  | binary op left right => "(" ++ left.text ++ " " ++ op.symbol ++ " " ++ right.text ++ ")"
  | call function argument => function.name ++ "(" ++ argument.text ++ ")"

def outlineLine (level : Nat) (line : String) : String :=
  String.ofList (List.replicate (2 * level) ' ') ++ line ++ "\n"

def outline (level : Nat) : Expr → String
  | literal value => outlineLine level ("Literal[" ++ floatText value ++ "]")
  | var name => outlineLine level ("Variable[" ++ name.name ++ "]")
  | negate operand =>
    outlineLine level "Negate(" ++ operand.outline (level + 1) ++ outlineLine level ")"
  | binary op left right =>
    outlineLine level ("BinaryOp[" ++ op.symbol ++ "](") ++ left.outline (level + 1) ++
      right.outline (level + 1) ++ outlineLine level ")"
  | call function argument =>
    outlineLine level ("FunctionCall[" ++ function.name ++ "](") ++
      argument.outline (level + 1) ++ outlineLine level ")"

end Expr

namespace Surface

def text (s : Surface) : String :=
  " ".intercalate (s.parts.map Expr.text)

def outline (s : Surface) : String :=
  Expr.outlineLine 0 "AST(" ++ String.join (s.parts.map (Expr.outline 1)) ++
    Expr.outlineLine 0 ")"

end Surface

end SurfaceLang
