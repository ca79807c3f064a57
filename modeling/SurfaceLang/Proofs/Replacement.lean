import SurfaceLang.Proofs.Acceptance
import SurfaceLang.Proofs.Printed

namespace SurfaceLang

/-- The expression `e` with `part` in the place of a variable. -/
def Expr.replace (e : Expr) (name : Var) (part : Expr) : Expr :=
  match e with
  | .literal value => .literal value
  | .var other => if other = name then part else .var other
  | .negate operand => .negate (operand.replace name part)
  | .binary op left right => .binary op (left.replace name part) (right.replace name part)
  | .call function argument => .call function (argument.replace name part)

theorem Expr.eval_replace (name : Var) (part e : Expr) (x y : Float) :
    (e.replace name part).eval x y =
      match name with
      | .x => e.eval (part.eval x y) y
      | .y => e.eval x (part.eval x y) := by
  induction e with
  | literal value => cases name <;> rfl
  | var other => cases name <;> cases other <;> rfl
  | negate operand ih => cases name <;> exact congrArg negated ih
  | binary op left right ihLeft ihRight => cases name <;> exact congrArg₂ op.apply ihLeft ihRight
  | call function argument ih => cases name <;> exact congrArg function.apply ih

theorem Surface.eval_replace (name : Var) (part : Expr) (es : List Expr) (x y : Float) :
    Surface.eval x y ⟨es.map (·.replace name part)⟩ =
      match name with
      | .x => Surface.eval (part.eval x y) y ⟨es⟩
      | .y => Surface.eval x (part.eval x y) ⟨es⟩ := by
  simp only [Surface.eval, List.foldl_map, Expr.eval_replace]
  cases name <;> rfl

namespace Grammar

open SurfaceLang.Parser

/-- The tokens in the place of `t` when `filling` stands in parentheses in the place of a
variable. -/
def tokensFor (name : Var) (filling : List Token) (t : Token) : List Token :=
  if Var.ofKind? t.kind = some name then inParens filling else [t]

variable {name : Var} {filling : List Token}

theorem tokensFor_of_noVar {t : Token} (noVar : Var.ofKind? t.kind = none) :
    tokensFor name filling t = [t] := by
  rw [tokensFor, noVar, if_neg nofun]

theorem noVar_of_function {kind : TokenKind} {f : Function}
    (named : Function.ofKind? kind = some f) : Var.ofKind? kind = none := by
  cases kind <;> first | rfl | cases named

theorem noVar_of_operator {kind : TokenKind} {o : BinaryOp}
    (named : BinaryOp.ofKind? kind = some o) : Var.ofKind? kind = none := by
  cases kind <;> first | rfl | cases named

theorem Phrase.replace {rule : Rule} {ts : List Token} {e part : Expr} {c d : Nat}
    (phrase : Phrase rule ts e c) (inner : Phrase .expression filling part d) :
    ∃ c', Phrase rule (ts.flatMap (tokensFor name filling)) (e.replace name part) c' := by
  induction phrase with
  | @number t v kind value =>
    rw [List.flatMap_singleton, tokensFor_of_noVar (by rw [kind]; rfl)]
    exact ⟨0, .number kind value⟩
  | @var t other kind =>
    rw [List.flatMap_singleton, tokensFor, kind, Expr.replace]
    by_cases same : other = name
    · rw [if_pos (congrArg some same), if_pos same]
      exact ⟨d, .parens inner.inParens⟩
    · rw [if_neg (fun eq => same (Option.some.inj eq)), if_neg same]
      exact ⟨0, .var kind⟩
  | parens _ ih => exact ih.imp fun _ => .parens
  | plain _ ih => exact ih.imp fun _ => .plain
  | base _ ih => exact ih.imp fun _ => .base
  | single _ ih => exact ih.imp fun _ => .single
  | chain _ ih =>
    obtain ⟨c', row⟩ := ih
    exact ⟨c', .chain row⟩
  | expression _ ih =>
    obtain ⟨c', row⟩ := ih
    exact ⟨1 + c', .expression row⟩
  | call kind _ ih =>
    obtain ⟨c', argument⟩ := ih
    rw [List.flatMap_cons, tokensFor_of_noVar (noVar_of_function kind)]
    exact ⟨c', .call kind argument⟩
  | minus kind _ ih =>
    obtain ⟨c', operand⟩ := ih
    rw [List.flatMap_cons, tokensFor_of_noVar (by rw [kind]; rfl)]
    exact ⟨c', .minus kind operand⟩
  | group left right _ ih =>
    obtain ⟨c', inside⟩ := ih
    rw [List.flatMap_cons, List.flatMap_append, List.flatMap_singleton,
      tokensFor_of_noVar (by rw [left]; rfl), tokensFor_of_noVar (by rw [right]; rfl)]
    exact ⟨c', .group left right inside⟩
  | power kind operator _ _ ihLeft ihRight =>
    obtain ⟨c', left⟩ := ihLeft
    obtain ⟨d', right⟩ := ihRight
    rw [List.flatMap_append, List.flatMap_cons, tokensFor_of_noVar (noVar_of_operator operator)]
    exact ⟨_, .power kind operator left right⟩
  | next kind operator _ _ ihLeft ihRight =>
    obtain ⟨c', left⟩ := ihLeft
    obtain ⟨d', right⟩ := ihRight
    rw [List.flatMap_append, List.flatMap_cons, tokensFor_of_noVar (noVar_of_operator operator)]
    exact ⟨_, .next kind operator left right⟩

theorem Stops.replace {rule : Rule} {rest : List Token} (stop : Stops rule rest) :
    Stops rule (rest.flatMap (tokensFor name filling)) := by
  cases rest with
  | nil => exact stop
  | cons t rest =>
    rw [List.flatMap_cons, tokensFor]
    split
    · exact stops_cons.mpr (goesOn_eq_false_of_beginsPrimary rfl rule)
    · exact stops_cons.mpr (stops_cons.mp stop)

theorem Program.replace {ts : List Token} {es : List Expr} {part : Expr} {c d : Nat}
    (program : Program ts es c) (inner : Phrase .expression filling part d) :
    ∃ c', Program (ts.flatMap (tokensFor name filling)) (es.map (·.replace name part)) c' := by
  induction program with
  | nil => exact ⟨0, .nil⟩
  | cons first stop _ ih =>
    obtain ⟨c₁, phrase⟩ := first.replace inner
    obtain ⟨c₂, others⟩ := ih
    rw [List.flatMap_append]
    exact ⟨max c₁ c₂, .cons phrase stop.replace others⟩

theorem Program.phrase {ts : List Token} {e : Expr} {c : Nat} (program : Program ts [e] c) :
    ∃ c', Phrase .expression ts e c' := by
  cases program with
  | cons first stop others =>
    cases others
    exact ⟨_, by rwa [List.append_nil]⟩

theorem Program.isMeaningful {ts : List Token} {es : List Expr} {c : Nat}
    (program : Program ts es c) : ∀ t ∈ ts, isMeaningful t.kind = true := by
  induction program with
  | nil => nofun
  | cons first stop others ih => exact List.forall_mem_append.mpr ⟨first.isMeaningful, ih⟩

end Grammar

end SurfaceLang
