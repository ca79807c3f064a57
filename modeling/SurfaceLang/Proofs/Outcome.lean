import SurfaceLang.Proofs.Grammar

namespace SurfaceLang.Parser

variable {limit bound : Nat}

/-- How a rule ends, whatever number of tokens it leaves. -/
inductive Outcome (limit : Nat) where
  | parsed (node : Expr) (after : State limit)
  | failed (error : ParseError) (after : State limit)

def Outcome.leave (s : State limit) : Outcome limit → Outcome limit
  | parsed node after => parsed node { after with depth := s.depth, depth_le := s.depth_le }
  | failed error after => failed error { after with depth := s.depth, depth_le := s.depth_le }

def Outcome.build (built : Except NodeError Expr) (s : State limit) : Outcome limit :=
  match built with
  | .ok node => parsed node s
  | .error cause => failed (.node cause) { s with log := s.log ++ [cause.record] }

def Outcome.andThen (first : Outcome limit) (onward : Expr → State limit → Outcome limit) :
    Outcome limit :=
  match first with
  | parsed node after => onward node after
  | failed error after => failed error after

def Step.outcome : Step limit bound → Outcome limit
  | parsed node after _ _ => .parsed node after
  | failed error after _ => .failed error after

@[simp]
theorem outcome_parsed (node : Expr) (after : State limit) (moves : List Move)
    (shorter : after.rest.length < bound) :
    (Step.parsed node after moves shorter).outcome = .parsed node after :=
  rfl

theorem exists_eq_parsed {step : Step limit bound} {node : Expr} {after : State limit}
    (parsed : step.outcome = .parsed node after) :
    ∃ moves shorter, step = .parsed node after moves shorter := by
  cases step with
  | failed error after moves => cases parsed
  | parsed node after moves shorter =>
    cases parsed
    exact ⟨moves, shorter, rfl⟩

theorem exists_eq_failed {step : Step limit bound} {error : ParseError} {after : State limit}
    (failed : step.outcome = .failed error after) : ∃ moves, step = .failed error after moves := by
  cases step with
  | parsed node after moves shorter => cases failed
  | failed error after moves =>
    cases failed
    exact ⟨moves, rfl⟩

@[simp]
theorem outcome_weaken {larger : Nat} (le : bound ≤ larger) (step : Step limit bound) :
    (step.weaken le).outcome = step.outcome := by
  cases step <;> rfl

@[simp]
theorem outcome_behind (earlier : List Move) (step : Step limit bound) :
    (step.behind earlier).outcome = step.outcome := by
  cases step <;> rfl

@[simp]
theorem outcome_leave (s : State limit) (step : Step limit bound) :
    (step.leave s).outcome = step.outcome.leave s := by
  cases step <;> rfl

theorem outcome_build (built : Except NodeError Expr) (s : State limit)
    {next : Expr → Step limit bound} (same : ∀ node, (next node).outcome = .parsed node s) :
    (Step.build built s next).outcome = .build built s := by
  cases built with
  | ok node => exact same node
  | error cause => rfl

theorem outcome_andThen {larger : Nat} {first : Step limit bound}
    {next : (node : Expr) → (after : State limit) → after.rest.length < bound → Step limit larger}
    (onward : Expr → State limit → Outcome limit)
    (same : ∀ node after shorter, (next node after shorter).outcome = onward node after) :
    (first.andThen next).outcome = first.outcome.andThen onward := by
  cases first with
  | failed error after moves => rfl
  | parsed node after moves shorter => exact (outcome_behind _ _).trans (same node after shorter)

@[simp]
theorem outcome_advance {s : State limit} {t : Token} {rest : List Token} (eq : s.rest = t :: rest)
    (next : (inner : State limit) → inner.rest.length < s.rest.length → Step limit bound) :
    (s.advance eq next).outcome = (next (s.withRest rest) (State.length_tail_lt eq)).outcome :=
  outcome_behind _ _

theorem outcome_deepen (s : State limit)
    (next : (inner : State limit) → inner.rest = s.rest → Step limit bound) :
    (s.deepen next).outcome =
      if room : s.depth < limit then (next (s.deeper room) rfl).outcome
      else .failed (.tooDeep limit) s := by
  unfold State.deepen
  split
  · exact outcome_behind _ _
  · rfl

theorem outcome_nested (s : State limit)
    (rule : (inner : State limit) → inner.rest = s.rest → Step limit bound) :
    (s.nested rule).outcome =
      if room : s.depth < limit then (rule (s.deeper room) rfl).outcome.leave s
      else .failed (.tooDeep limit) s := by
  rw [State.nested, outcome_leave, outcome_deepen]
  split <;> rfl

theorem outcome_passing_of_goesOn {s : State limit} {among : TokenKind → Bool} {t : Token}
    {rest : List Token}
    {next : Token → (inner : State limit) → inner.rest.length < s.rest.length → Step limit bound}
    {otherwise : Step limit bound} (eq : s.rest = t :: rest) (goesOn : among t.kind = true) :
    (s.passing among next otherwise).outcome =
      (next t (s.withRest rest) (State.length_tail_lt eq)).outcome := by
  rw [State.passing, State.ifFacing_of_goesOn eq goesOn, outcome_advance]

theorem outcome_expression (s : State limit) :
    (expression s).outcome =
      if room : s.depth < limit then (chain .sums (s.deeper room)).outcome.leave s
      else .failed (.tooDeep limit) s := by
  rw [expression, outcome_nested]
  simp only [outcome_weaken]

theorem outcome_chain (row : Chain) (s : State limit) :
    (chain row s).outcome =
      ((operand row s).outcome.andThen fun left after =>
        (chainAfter row left after).outcome).leave s := by
  rw [chain, outcome_leave]
  exact congrArg (Outcome.leave s) (outcome_andThen _ fun _ _ _ => outcome_weaken _ _)

theorem outcome_chainAfter_of_stop {row : Chain} {left : Expr} {s : State limit}
    (stop : ∀ t ∈ s.rest.head?, row.continues t.kind = false) :
    (chainAfter row left s).outcome = .parsed left s := by
  rw [chainAfter, State.ifFacing_of_stop stop]
  rfl

theorem outcome_chainAfter_cons {row : Chain} {left : Expr} {op : Token} {rest : List Token}
    {depth : Nat} {depth_le : depth ≤ limit} {log : List LogRecord} {o : BinaryOp}
    (goesOn : row.continues op.kind = true) (operator : BinaryOp.ofKind? op.kind = some o) :
    (chainAfter row left ⟨op :: rest, depth, depth_le, log⟩).outcome =
      if room : depth < limit then
        (operand row ⟨rest, depth + 1, room, log⟩).outcome.andThen fun right after =>
          (chainAfter row (.binary o left right) after).outcome
      else .failed (.tooDeep limit) ⟨op :: rest, depth, depth_le, log⟩ := by
  rw [chainAfter, State.ifFacing_of_goesOn rfl goesOn, outcome_deepen]
  split
  · rw [outcome_advance]
    refine outcome_andThen _ fun right after shorter => ?_
    simp only [Expr.ofOperator, operator, Step.build, outcome_weaken]
  · rfl

theorem outcome_power_of_failed {s : State limit} {error : ParseError} {after : State limit}
    (base : (unary s).outcome = .failed error after) :
    (power s).outcome = .failed error after := by
  obtain ⟨moves, eq⟩ := exists_eq_failed base
  rw [power, eq]
  rfl

theorem outcome_power_of_stop {s : State limit} {node : Expr} {after : State limit}
    (base : (unary s).outcome = .parsed node after)
    (stop : ∀ t ∈ after.rest.head?, isPower t.kind = false) :
    (power s).outcome = .parsed node after := by
  obtain ⟨moves, shorter, eq⟩ := exists_eq_parsed base
  rw [power, eq, Step.andThen, outcome_behind, State.passing, State.ifFacing_of_stop stop]
  rfl

theorem outcome_power_of_goesOn {s : State limit} {node : Expr} {op : Token} {rest : List Token}
    {depth : Nat} {depth_le : depth ≤ limit} {log : List LogRecord} {o : BinaryOp}
    (base : (unary s).outcome = .parsed node ⟨op :: rest, depth, depth_le, log⟩)
    (goesOn : isPower op.kind = true) (operator : BinaryOp.ofKind? op.kind = some o) :
    (power s).outcome =
      if room : depth < limit then
        ((power ⟨rest, depth + 1, room, log⟩).outcome.leave ⟨rest, depth, depth_le, log⟩).andThen
          fun exponent last => .parsed (.binary o node exponent) last
      else .failed (.tooDeep limit) ⟨rest, depth, depth_le, log⟩ := by
  obtain ⟨moves, shorter, eq⟩ := exists_eq_parsed base
  rw [power, eq, Step.andThen, outcome_behind, outcome_passing_of_goesOn rfl goesOn,
    outcome_andThen fun exponent last => .parsed (.binary o node exponent) last, outcome_nested]
  · by_cases room : depth < limit
    · rw [dif_pos room, dif_pos room, outcome_weaken]
    · rw [dif_neg room, dif_neg room]
      rfl
  · intro exponent last shortest
    simp only [Expr.ofOperator, operator, Step.build, outcome_parsed]

theorem outcome_unary_of_plain {s : State limit} (plain : ∀ t ∈ s.rest.head?, t.kind ≠ .minus) :
    (unary s).outcome = (primary s).outcome := by
  rw [unary, State.passing, State.ifFacing_of_stop]
  exact fun t member => beq_false_of_ne (plain t member)

theorem outcome_unary_of_minus {t : Token} {rest : List Token} {depth : Nat}
    {depth_le : depth ≤ limit} {log : List LogRecord} (kind : t.kind = .minus) :
    (unary ⟨t :: rest, depth, depth_le, log⟩).outcome =
      (primary ⟨rest, depth, depth_le, log⟩).outcome.andThen fun node after =>
        .parsed node.negate after := by
  rw [unary, outcome_passing_of_goesOn rfl]
  · exact outcome_andThen _ fun _ _ _ => rfl
  · exact beq_of_eq kind

theorem outcome_primary_nil {depth : Nat} {depth_le : depth ≤ limit} {log : List LogRecord} :
    (primary ⟨[], depth, depth_le, log⟩).outcome =
      .failed (.unexpected Token.endOfInput) ⟨[], depth, depth_le, log⟩ := by
  rw [primary]
  rfl

theorem outcome_primary_cons {t : Token} {rest : List Token} {depth : Nat}
    {depth_le : depth ≤ limit} {log : List LogRecord} :
    (primary ⟨t :: rest, depth, depth_le, log⟩).outcome =
      if t.kind = .number then .build (Expr.ofNumber t) ⟨rest, depth, depth_le, log⟩
      else if isVariable t.kind then .build (Expr.ofVariable t) ⟨rest, depth, depth_le, log⟩
      else if t.kind = .openParen then (group ⟨t :: rest, depth, depth_le, log⟩).outcome
      else if isFunction t.kind then
        (group ⟨rest, depth, depth_le, log⟩).outcome.andThen fun argument after =>
          .build (Expr.ofFunction t argument) after
      else .failed (.noOperand t) ⟨t :: rest, depth, depth_le, log⟩ := by
  rw [primary]
  simp only [State.passing, State.ifFacing, facing_cons, beq_iff_eq, apply_ite Step.outcome,
    outcome_advance]
  rw [outcome_build _ _ fun _ => rfl, outcome_build _ _ fun _ => rfl,
    outcome_andThen fun argument after => .build (Expr.ofFunction t argument) after]
  · rfl
  · exact fun _ _ _ => outcome_build _ _ fun _ => rfl

theorem outcome_group_of_unopened {s : State limit}
    (unopened : ∀ t ∈ s.rest.head?, t.kind ≠ .openParen) :
    (group s).outcome = .failed (.missing .openParen (facing s.rest)) s := by
  rw [group, State.expect, State.passing, State.ifFacing_of_stop]
  · rfl
  · exact fun t member => beq_false_of_ne (unopened t member)

theorem outcome_expect (s : State limit) {wanted : TokenKind} (real : wanted ≠ .endOfInput)
    {next : (inner : State limit) → inner.rest.length < s.rest.length → Step limit bound}
    {onward : State limit → Outcome limit}
    (same : ∀ inner shorter, (next inner shorter).outcome = onward inner) :
    (s.expect wanted next).outcome =
      if (facing s.rest).kind = wanted then onward (s.withRest s.rest.tail)
      else .failed (.missing wanted (facing s.rest)) s := by
  obtain ⟨rest, depth, depth_le, log⟩ := s
  cases rest with
  | nil => exact (if_neg real.symm).symm
  | cons t rest =>
    by_cases kind : t.kind = wanted
    · rw [facing_cons, if_pos kind, State.expect, outcome_passing_of_goesOn rfl]
      · exact same _ _
      · exact beq_of_eq kind
    · have stop : ∀ u ∈ (t :: rest).head?, (u.kind == wanted) = false := by
        rintro u ⟨⟩
        exact beq_false_of_ne kind
      rw [facing_cons, if_neg kind, State.expect, State.passing, State.ifFacing_of_stop stop]
      rfl

theorem outcome_group_of_opened {t : Token} {rest : List Token} {depth : Nat}
    {depth_le : depth ≤ limit} {log : List LogRecord} (kind : t.kind = .openParen) :
    (group ⟨t :: rest, depth, depth_le, log⟩).outcome =
      (expression ⟨rest, depth, depth_le, log⟩).outcome.andThen fun node after =>
        if (facing after.rest).kind = .closeParen then .parsed node (after.withRest after.rest.tail)
        else .failed (.missing .closeParen (facing after.rest)) after := by
  rw [group, State.expect, outcome_passing_of_goesOn rfl]
  · refine outcome_andThen _ fun node after shorter => ?_
    exact outcome_expect after (by decide) fun _ _ => rfl
  · exact beq_of_eq kind

end SurfaceLang.Parser
