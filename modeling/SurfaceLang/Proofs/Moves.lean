import SurfaceLang.Proofs.Reading

namespace SurfaceLang.Parser

open Grammar

/-- Where a parse stands. The level is a plain counter, which nothing bounds. -/
structure Moment where
  rest : List Token
  level : Nat
  deriving DecidableEq, Repr

namespace Moment

def make (m : Moment) : Move → Moment
  | .advance => { m with rest := m.rest.tail }
  | .deepen => { m with level := m.level + 1 }
  | .restore level => { m with level }

def run (m : Moment) (moves : List Move) : Moment :=
  moves.foldl make m

/-- No move passes the end of the input, adds a level beyond the limit or sets a higher one. -/
def Permits (limit : Nat) (m : Moment) : Move → Prop
  | .advance => (facing m.rest).kind ≠ .endOfInput
  | .deepen => m.level < limit
  | .restore level => level ≤ m.level

def Safe (limit : Nat) : Moment → List Move → Prop
  | _, [] => True
  | m, move :: moves => m.Permits limit move ∧ Safe limit (m.make move) moves

@[simp]
theorem run_nil (m : Moment) : m.run [] = m :=
  rfl

@[simp]
theorem run_cons (m : Moment) (move : Move) (moves : List Move) :
    m.run (move :: moves) = (m.make move).run moves :=
  rfl

theorem run_append (m : Moment) (before after : List Move) :
    m.run (before ++ after) = (m.run before).run after :=
  List.foldl_append

theorem safe_append {limit : Nat} {m : Moment} {before after : List Move} :
    m.Safe limit (before ++ after) ↔ m.Safe limit before ∧ (m.run before).Safe limit after := by
  induction before generalizing m with
  | nil => simp [Safe]
  | cons move before ih => simp [Safe, ih, and_assoc]

theorem Safe.permits {limit : Nat} {m : Moment} {move : Move} {before after : List Move}
    (safe : m.Safe limit (before ++ move :: after)) : (m.run before).Permits limit move :=
  (safe_append.mp safe).2.1

theorem Safe.level_le {limit : Nat} {m : Moment} {moves : List Move} (safe : m.Safe limit moves)
    (le : m.level ≤ limit) : (m.run moves).level ≤ limit := by
  induction moves generalizing m with
  | nil => exact le
  | cons move moves ih =>
    obtain ⟨permitted, safe⟩ := safe
    refine ih safe ?_
    cases move with
    | advance => exact le
    | deepen => exact permitted
    | restore level => exact Nat.le_trans permitted le

theorem Safe.exists_passed {limit : Nat} {m : Moment} {moves : List Move}
    (safe : m.Safe limit moves) : ∃ passed, m.rest = passed ++ (m.run moves).rest ∧
      passed.length = moves.count .advance ∧ ∀ t ∈ passed, t.kind ≠ .endOfInput := by
  induction moves generalizing m with
  | nil => exact ⟨[], rfl, rfl, by simp⟩
  | cons move moves ih =>
    obtain ⟨permitted, safe⟩ := safe
    obtain ⟨passed, rest_eq, length_eq, real⟩ := ih safe
    cases move with
    | deepen | restore => exact ⟨passed, rest_eq, by simp [length_eq], real⟩
    | advance =>
      obtain ⟨rest, level⟩ := m
      cases rest with
      | nil => exact absurd rfl permitted
      | cons t rest =>
        refine ⟨t :: passed, congrArg (t :: ·) rest_eq, by simp [length_eq], ?_⟩
        exact List.forall_mem_cons.mpr ⟨permitted, real⟩

end Moment

variable {limit bound larger : Nat}

def State.moment (s : State limit) : Moment :=
  ⟨s.rest, s.depth⟩

theorem Step.Succeeds.length_lt {step : Step limit bound} (succeeds : step.Succeeds) :
    step.after.rest.length < bound := by
  cases step with
  | parsed node after moves shorter => exact shorter
  | failed error after moves => cases succeeds

structure Leads (s : State limit) (step : Step limit bound) : Prop where
  safe : s.moment.Safe limit step.moves
  ends : s.moment.run step.moves = step.after.moment
  le_level : s.depth ≤ step.after.depth

structure Balanced (s : State limit) (step : Step limit bound) : Prop extends Leads s step where
  level : step.after.depth = s.depth

section Combinators

variable {s inner : State limit} {step : Step limit bound}

theorem balanced_failed (error : ParseError) (s : State limit) :
    Balanced s (.failed error s [] : Step limit bound) :=
  ⟨⟨trivial, rfl, Nat.le_refl _⟩, rfl⟩

theorem balanced_parsed (node : Expr) (s : State limit) (shorter : s.rest.length < bound) :
    Balanced s (.parsed node s [] shorter) :=
  ⟨⟨trivial, rfl, Nat.le_refl _⟩, rfl⟩

theorem Leads.build {built : Except NodeError Expr} {next : Expr → Step limit bound}
    (leads : ∀ node, Leads s (next node)) : Leads s (.build built s next) := by
  cases built with
  | ok node => exact leads node
  | error cause => exact ⟨trivial, rfl, Nat.le_refl _⟩

theorem balanced_build (built : Except NodeError Expr) (s : State limit)
    (shorter : s.rest.length < bound) :
    Balanced s (.build built s fun node => .parsed node s [] shorter) := by
  refine ⟨.build fun node => (balanced_parsed node s shorter).toLeads, ?_⟩
  cases built <;> rfl

theorem Leads.weaken (leads : Leads s step) (le : bound ≤ larger) : Leads s (step.weaken le) := by
  cases step <;> exact ⟨leads.safe, leads.ends, leads.le_level⟩

theorem Balanced.weaken (balanced : Balanced s step) (le : bound ≤ larger) :
    Balanced s (step.weaken le) := by
  refine ⟨balanced.toLeads.weaken le, ?_⟩
  cases step <;> exact balanced.level

@[simp]
theorem after_behind (earlier : List Move) (step : Step limit bound) :
    (step.behind earlier).after = step.after := by
  cases step <;> rfl

@[simp]
theorem moves_behind (earlier : List Move) (step : Step limit bound) :
    (step.behind earlier).moves = earlier ++ step.moves := by
  cases step <;> rfl

theorem Leads.behind {earlier : List Move} (leads : Leads inner step)
    (safe : s.moment.Safe limit earlier) (ends : s.moment.run earlier = inner.moment)
    (le : s.depth ≤ inner.depth) : Leads s (step.behind earlier) where
  safe := by
    rw [moves_behind, Moment.safe_append, ends]
    exact ⟨safe, leads.safe⟩
  ends := by rw [moves_behind, Moment.run_append, ends, leads.ends, after_behind]
  le_level := by
    rw [after_behind]
    exact Nat.le_trans le leads.le_level

theorem Leads.advance {t : Token} {rest : List Token}
    {next : (inner : State limit) → inner.rest.length < s.rest.length → Step limit bound}
    (eq : s.rest = t :: rest) (more : t.kind ≠ .endOfInput)
    (leads : Leads (s.withRest rest) (next (s.withRest rest) (State.length_tail_lt eq))) :
    Leads s (s.advance eq next) := by
  refine leads.behind ⟨?_, trivial⟩ ?_ (Nat.le_refl _)
  · simpa [Moment.Permits, State.moment, eq, facing_cons] using more
  · simp [Moment.make, State.moment, eq]

theorem Leads.deepen {next : (inner : State limit) → inner.rest = s.rest → Step limit bound}
    (leads : ∀ room : s.depth < limit, Leads (s.deeper room) (next (s.deeper room) rfl)) :
    Leads s (s.deepen next) := by
  unfold State.deepen
  split
  · rename_i room
    exact (leads room).behind ⟨room, trivial⟩ rfl (Nat.le_succ _)
  · exact (balanced_failed _ s).toLeads

theorem Leads.leave (leads : Leads s step) : Balanced s (step.leave s) := by
  have moves : (step.leave s).moves = step.moves ++ [.restore s.depth] := by
    cases step <;> rfl
  have back : (step.leave s).after.moment = step.after.moment.make (.restore s.depth) := by
    cases step <;> rfl
  have level : (step.leave s).after.depth = s.depth := by
    cases step <;> rfl
  refine ⟨⟨?_, ?_, Nat.le_of_eq level.symm⟩, level⟩
  · rw [moves, Moment.safe_append, leads.ends]
    exact ⟨leads.safe, leads.le_level, trivial⟩
  · rw [moves, Moment.run_append, leads.ends, back]
    rfl

theorem Leads.andThen
    {next : (node : Expr) → (after : State limit) → after.rest.length < bound → Step limit larger}
    (first : Leads s step) (onward : ∀ node after shorter, Leads after (next node after shorter)) :
    Leads s (step.andThen next) := by
  cases step with
  | failed error after moves => exact ⟨first.safe, first.ends, first.le_level⟩
  | parsed node after moves shorter =>
    exact (onward node after shorter).behind first.safe first.ends first.le_level

theorem Balanced.andThen
    {next : (node : Expr) → (after : State limit) → after.rest.length < bound → Step limit larger}
    (first : Balanced s step)
    (onward : ∀ node after shorter, Balanced after (next node after shorter)) :
    Balanced s (step.andThen next) := by
  refine ⟨first.toLeads.andThen fun node after shorter => (onward node after shorter).toLeads, ?_⟩
  cases step with
  | failed error after moves => exact first.level
  | parsed node after moves shorter =>
    rw [Step.andThen, after_behind]
    exact (onward node after shorter).level.trans first.level

theorem Balanced.nested {rule : (inner : State limit) → inner.rest = s.rest → Step limit bound}
    (balanced : ∀ room : s.depth < limit, Balanced (s.deeper room) (rule (s.deeper room) rfl)) :
    Balanced s (s.nested rule) :=
  (Leads.deepen fun room => (balanced room).toLeads).leave

theorem ne_of_goesOn {among : TokenKind → Bool} {kind other : TokenKind}
    (stops : among other = false) (goesOn : among kind = true) : kind ≠ other := by
  rintro rfl
  rw [stops] at goesOn
  cases goesOn

theorem Balanced.passing {among : TokenKind → Bool}
    {next : Token → (inner : State limit) → inner.rest.length < s.rest.length → Step limit bound}
    {otherwise : Step limit bound} (more : among .endOfInput = false)
    (balanced : ∀ t inner shorter, Balanced inner (next t inner shorter))
    (others : Balanced s otherwise) : Balanced s (s.passing among next otherwise) := by
  refine State.ifFacing_cases (fun t rest eq goesOn => ?_) others
  have inside := balanced t (s.withRest rest) (State.length_tail_lt eq)
  refine ⟨inside.toLeads.advance eq (ne_of_goesOn more goesOn), ?_⟩
  rw [State.advance, after_behind]
  exact inside.level

theorem Balanced.expect {wanted : TokenKind}
    {next : (inner : State limit) → inner.rest.length < s.rest.length → Step limit bound}
    (real : wanted ≠ .endOfInput)
    (balanced : ∀ inner shorter, Balanced inner (next inner shorter)) :
    Balanced s (s.expect wanted next) :=
  .passing (beq_false_of_ne real.symm) (fun _ => balanced) (balanced_failed _ s)

end Combinators

/-- What is to be shown of all states with fewer tokens than `n`: a rule keeps its level, and the
rest of a row only adds to it. -/
structure Kept (limit n : Nat) : Prop where
  rule (rule : Rule) (s : State limit) (fewer : s.rest.length < n) : Balanced s (rule.step s)
  further (row : Chain) (left : Expr) (s : State limit) (fewer : s.rest.length < n) :
    Leads s (chainAfter row left s)

namespace Kept

variable {s : State limit}

theorem operand {n : Nat} (kept : Kept limit n) (row : Chain) (s : State limit)
    (fewer : s.rest.length < n) : Balanced s (Parser.operand row s) := by
  rw [operand_eq_step]
  exact kept.rule (operandRule row) s fewer

theorem chainAfter (kept : Kept limit s.rest.length) (row : Chain) (left : Expr) :
    Leads s (Parser.chainAfter row left s) := by
  rw [Parser.chainAfter]
  refine State.ifFacing_cases (fun op rest eq goesOn => ?_) (balanced_parsed left s _).toLeads
  have more : row.continues .endOfInput = false := by cases row <;> rfl
  have shorter := State.length_tail_lt eq
  refine .deepen fun room => Leads.advance (s := s.deeper room) eq (ne_of_goesOn more goesOn) ?_
  refine (kept.operand row _ shorter).toLeads.andThen fun right after less => ?_
  exact .build fun node => (kept.further row node after (Nat.lt_trans less shorter)).weaken _

theorem group (kept : Kept limit s.rest.length) : Balanced s (Parser.group s) := by
  rw [Parser.group]
  refine .expect (by decide) fun inner less => ?_
  refine (kept.rule .expression inner less).andThen fun node after shorter => ?_
  exact .expect (by decide) fun last shortest => balanced_parsed node last _

theorem primary (kept : Kept limit s.rest.length) : Balanced s (Parser.primary s) := by
  rw [Parser.primary]
  refine .passing rfl (fun t inner less => balanced_build _ inner less) ?_
  refine .passing rfl (fun t inner less => balanced_build _ inner less) ?_
  refine State.ifFacing_cases (fun _ _ _ _ => kept.group) ?_
  refine .passing rfl (fun t inner less => ?_) (balanced_failed _ s)
  exact (kept.rule .group inner less).andThen fun argument after shorter => balanced_build _ after _

theorem unary (kept : Kept limit s.rest.length) : Balanced s (Parser.unary s) := by
  rw [Parser.unary]
  refine .passing rfl (fun t inner less => ?_) kept.primary
  exact (kept.rule .primary inner less).andThen fun node after shorter => balanced_parsed _ after _

theorem power (kept : Kept limit s.rest.length) : Balanced s (Parser.power s) := by
  rw [Parser.power]
  refine kept.unary.andThen fun base after shorter => ?_
  refine .passing rfl (fun op inner less => ?_) (balanced_parsed base after shorter)
  refine (Balanced.nested fun room => ?_).andThen fun exponent last shortest =>
    balanced_build _ last _
  exact (kept.rule .power (inner.deeper room) (Nat.lt_trans less shorter)).weaken _

theorem chain_of_operand (kept : Kept limit s.rest.length) {row : Chain}
    (operand : Balanced s (Parser.operand row s)) : Balanced s (Parser.chain row s) := by
  rw [Parser.chain]
  refine (operand.toLeads.andThen fun left after shorter => ?_).leave
  exact (kept.further row left after shorter).weaken _

theorem chain (kept : Kept limit s.rest.length) (row : Chain) :
    Balanced s (Parser.chain row s) := by
  have products : Balanced s (Parser.chain .products s) := by
    refine kept.chain_of_operand ?_
    rw [Parser.operand]
    exact kept.power
  cases row with
  | products => exact products
  | sums =>
    refine kept.chain_of_operand ?_
    rw [Parser.operand]
    exact products

theorem expression (kept : Kept limit s.rest.length) : Balanced s (Parser.expression s) := by
  rw [Parser.expression]
  refine .nested fun room => ?_
  exact (chain (s := s.deeper room) kept .sums).weaken _

end Kept

theorem kept (limit n : Nat) : Kept limit n := by
  induction n with
  | zero => exact ⟨nofun, nofun⟩
  | succ n ih =>
    have before (s : State limit) (fewer : s.rest.length < n + 1) : Kept limit s.rest.length :=
      ⟨fun rule t less => ih.rule rule t (by omega), fun row left t less =>
        ih.further row left t (by omega)⟩
    refine ⟨fun rule s fewer => ?_, fun row left s fewer => (before s fewer).chainAfter row left⟩
    have smaller := before s fewer
    cases rule with
    | expression => exact smaller.expression
    | chain row | row row operators => exact smaller.chain row
    | power => exact smaller.power
    | unary => exact smaller.unary
    | primary => exact smaller.primary
    | group => exact smaller.group

end SurfaceLang.Parser

namespace SurfaceLang.Grammar

open SurfaceLang.Parser

/-- A rule ends at the level that it began at, whether it succeeds or not. Its moves take the plain
counter to the same end, and all along the level is at most the limit, a level is only added below
it, and the end of the input is never passed. A rule that succeeds has passed a token. -/
theorem rule_keeps_level {limit : Nat} (rule : Rule) (s : State limit) :
    (rule.step s).after.depth = s.depth ∧
    s.moment.run (rule.step s).moves = (rule.step s).after.moment ∧
    (∀ before after, (rule.step s).moves = before ++ after →
      (s.moment.run before).level ≤ limit) ∧
    (∀ before after, (rule.step s).moves = before ++ .deepen :: after →
      (s.moment.run before).level < limit) ∧
    (∀ before after, (rule.step s).moves = before ++ .advance :: after →
      (facing (s.moment.run before).rest).kind ≠ .endOfInput) ∧
    ∃ passed, s.rest = passed ++ (rule.step s).after.rest ∧
      passed.length = (rule.step s).moves.count .advance ∧
      (∀ t ∈ passed, t.kind ≠ .endOfInput) ∧ ((rule.step s).Succeeds → passed ≠ []) := by
  have balanced : Balanced s (rule.step s) :=
    (kept limit (s.rest.length + 1)).rule rule s (Nat.lt_succ_self _)
  have safe := balanced.safe
  refine ⟨balanced.level, balanced.ends, ?_, ?_, ?_, ?_⟩
  · intro before after eq
    rw [eq] at safe
    exact (Moment.safe_append.mp safe).1.level_le s.depth_le
  · intro before after eq
    rw [eq] at safe
    exact safe.permits
  · intro before after eq
    rw [eq] at safe
    exact safe.permits
  · obtain ⟨passed, rest_eq, length_eq, real⟩ := safe.exists_passed
    rw [balanced.ends] at rest_eq
    refine ⟨passed, rest_eq, length_eq, real, ?_⟩
    rintro succeeds rfl
    have same : s.rest = (rule.step s).after.rest := rest_eq
    exact Nat.ne_of_gt succeeds.length_lt (congrArg List.length same)

/-- The right operand adds a level only after its operator is passed, and gives it back. -/
example : (Rule.power.step (⟨[xToken, ⟨.power, "**"⟩, xToken], 0, by decide, []⟩ : State 1)).moves =
    [.advance, .advance, .deepen, .advance, .restore 0] := by
  decide +kernel

end SurfaceLang.Grammar
