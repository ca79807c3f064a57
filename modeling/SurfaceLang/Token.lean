import SurfaceLang.Text.Escape

namespace SurfaceLang

inductive TokenKind where
  | plus
  | minus
  | times
  | divide
  | power
  | root
  | sin
  | cos
  | tan
  | openParen
  | closeParen
  | varX
  | varY
  | number
  | endOfInput
  | unknown
  deriving DecidableEq, Repr

namespace TokenKind

def name : TokenKind → String
  | plus => "Add"
  | minus => "Sub"
  | times => "Mul"
  | divide => "Div"
  | power => "Pow"
  | root => "Root"
  | sin => "Sin"
  | cos => "Cos"
  | tan => "Tan"
  | openParen => "LParen"
  | closeParen => "RParen"
  | varX => "VarX"
  | varY => "VarY"
  | number => "Number"
  | endOfInput => "EndOfInput"
  | unknown => "Unknown"

def spelling : TokenKind → String
  | plus => "'+'"
  | minus => "'-'"
  | times => "'*'"
  | divide => "'/'"
  | power => "'**'"
  | root => "'//'"
  | sin => "'sin'"
  | cos => "'cos'"
  | tan => "'tan'"
  | openParen => "'('"
  | closeParen => "')'"
  | varX => "'x'"
  | varY => "'y'"
  | number => "number"
  | endOfInput => "end of input"
  | unknown => "unknown token"

end TokenKind

structure Token where
  kind : TokenKind
  text : String
  deriving DecidableEq, Repr

namespace Token

def endOfInput : Token :=
  ⟨.endOfInput, "\x00"⟩

def describe (t : Token) : String :=
  match t.kind with
  | .number | .unknown => t.kind.spelling ++ " '" ++ t.text ++ "'"
  | _ => t.kind.spelling

def listing (t : Token) : String :=
  t.kind.name ++ "(" ++ Text.escape t.text ++ ")"

end Token

/-- The token that stands before the rest, which has the end of the input behind it. -/
def facing (rest : List Token) : Token :=
  rest.headD Token.endOfInput

theorem facing_cons (t : Token) (rest : List Token) : facing (t :: rest) = t :=
  rfl

end SurfaceLang
