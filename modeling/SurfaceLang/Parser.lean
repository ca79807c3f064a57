import SurfaceLang.Parser.State
import SurfaceLang.Token.Lexer

namespace SurfaceLang.Parser

variable {limit : Nat}

/-- Rows of operands that are grouped from the left. -/
inductive Chain where
  | sums
  | products
  deriving DecidableEq, Repr

def Chain.continues : Chain → TokenKind → Bool
  | .sums, kind => kind == .plus || kind == .minus
  | .products, kind => kind == .times || kind == .divide

/-- How many sorts of row may stand in a row, itself included. -/
def Chain.height : Chain → Nat
  | .sums => 2
  | .products => 1

theorem Chain.height_le (row : Chain) : row.height ≤ 2 := by
  cases row <;> decide

def isPower (kind : TokenKind) : Bool :=
  kind == .power || kind == .root

def isFunction (kind : TokenKind) : Bool :=
  kind == .sin || kind == .cos || kind == .tan

def isVariable (kind : TokenKind) : Bool :=
  kind == .varX || kind == .varY

mutual

def expression (s : State limit) : Step limit s.rest.length :=
  s.nested fun inner same => (chain .sums inner).weaken (Nat.le_of_eq (congrArg List.length same))
termination_by 9 * s.rest.length + 8
decreasing_by
  rw [same]
  exact Nat.lt_succ_self _

def chain (row : Chain) (s : State limit) : Step limit s.rest.length :=
  ((operand row s).andThen fun left after shorter =>
    (chainAfter row left after).weaken (Nat.succ_le_of_lt shorter)).leave s
termination_by 9 * s.rest.length + 2 * row.height + 3
decreasing_by
  · omega
  · omega

/-- The rest of a row. Each operator adds a level, which the row gives back only when it ends. -/
def chainAfter (row : Chain) (left : Expr) (s : State limit) : Step limit (s.rest.length + 1) :=
  s.ifFacing row.continues
    (fun op _ eq =>
      s.deepen fun deeper same =>
        deeper.advance (same.trans eq) fun inner less =>
          (operand row inner).andThen fun right after shorter =>
            .build (Expr.ofOperator left op right) after fun node =>
              (chainAfter row node after).weaken
                (Nat.succ_le_succ (Nat.le_of_lt (Nat.lt_trans shorter (same ▸ less)))))
    (.parsed left s [] (Nat.lt_succ_self _))
termination_by 9 * s.rest.length
decreasing_by
  · have := row.height_le
    rw [same] at less
    omega
  · rw [same] at less
    omega

def operand (row : Chain) (s : State limit) : Step limit s.rest.length :=
  match row with
  | .sums => chain .products s
  | .products => power s
termination_by 9 * s.rest.length + 2 * row.height + 2
decreasing_by
  · exact Nat.lt_succ_self _
  · exact Nat.lt_succ_self _

def power (s : State limit) : Step limit s.rest.length :=
  (unary s).andThen fun base after shorter =>
    after.passing isPower
      (fun op inner less =>
        (inner.nested fun deeper same =>
          (power deeper).weaken (Nat.le_of_eq (congrArg List.length same))).andThen
            fun exponent last shortest =>
              .build (Expr.ofOperator base op exponent) last fun node =>
                .parsed node last [] (Nat.lt_trans shortest (Nat.lt_trans less shorter)))
      (.parsed base after [] shorter)
termination_by 9 * s.rest.length + 3
decreasing_by
  · omega
  · rw [same]
    omega

def unary (s : State limit) : Step limit s.rest.length :=
  s.passing (· == .minus)
    (fun _ inner less =>
      (primary inner).andThen fun node after shorter =>
        .parsed node.negate after [] (Nat.lt_trans shorter less))
    (primary s)
termination_by 9 * s.rest.length + 2
decreasing_by
  · omega
  · omega

def primary (s : State limit) : Step limit s.rest.length :=
  s.passing (· == .number)
    (fun t inner less => .build (Expr.ofNumber t) inner fun node => .parsed node inner [] less) <|
  s.passing isVariable
    (fun t inner less => .build (Expr.ofVariable t) inner fun node => .parsed node inner [] less) <|
  s.ifFacing (· == .openParen) (fun _ _ _ => group s) <|
  s.passing isFunction
    (fun t inner less =>
      (group inner).andThen fun argument after shorter =>
        .build (Expr.ofFunction t argument) after fun node =>
          .parsed node after [] (Nat.lt_trans shorter less)) <|
  .failed (.noOperand (facing s.rest)) s []
termination_by 9 * s.rest.length + 1
decreasing_by
  · exact Nat.lt_succ_self _
  · omega

def group (s : State limit) : Step limit s.rest.length :=
  s.expect .openParen fun inner less =>
    (expression inner).andThen fun node after shorter =>
      after.expect .closeParen fun last shortest =>
        .parsed node last [] (Nat.lt_trans shortest (Nat.lt_trans shorter less))
termination_by 9 * s.rest.length
decreasing_by omega

end

def parts (s : State limit) : Except ParseError (List Expr) × State limit :=
  if s.rest.isEmpty then (.ok [], s)
  else
    match expression s with
    | .failed error after _ => (.error error, after)
    | .parsed node after _ _ =>
      match parts after with
      | (.ok nodes, last) => (.ok (node :: nodes), last)
      | (.error error, last) => (.error error, last)
termination_by s.rest.length

end SurfaceLang.Parser

namespace SurfaceLang

structure Parsed where
  result : Except ParseError Surface
  log : List LogRecord

def Parsed.lastRecord : Except ParseError Surface → LogRecord
  | .ok surface =>
    ⟨.debug, "parsed " ++ toString surface.parts.length ++ " top-level expression(s)"⟩
  | .error error => ⟨.debug, "parse failed: " ++ error.message⟩

def defaultLimit : Nat := 256

def parseWithin (limit : Nat) (input : String) : Parsed :=
  let (tokens, lexer) := (Lexer.ofInput input).drain
  let (parts, last) :=
    Parser.parts (⟨tokens, 0, Nat.zero_le limit, lexer.cursor.log⟩ : Parser.State limit)
  let result := parts.map Surface.mk
  ⟨result, last.log ++ [Parsed.lastRecord result]⟩

def parse (input : String) : Parsed :=
  let parsed := parseWithin defaultLimit input
  ⟨parsed.result, ⟨.debug, "parsing " ++ Text.quote input⟩ :: parsed.log⟩

end SurfaceLang
