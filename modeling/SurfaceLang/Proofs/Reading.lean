import SurfaceLang.Proofs.Fault
import SurfaceLang.Proofs.Outcome

namespace SurfaceLang.Grammar

open SurfaceLang.Parser

variable {limit : Nat}

def Rule.step : (rule : Rule) → (s : State limit) → Step limit s.rest.length
  | .expression, s => Parser.expression s
  | .chain kind, s | .row kind _, s => Parser.chain kind s
  | .power, s => Parser.power s
  | .unary, s => Parser.unary s
  | .primary, s => Parser.primary s
  | .group, s => Parser.group s

def Rule.outcome (rule : Rule) (s : State limit) : Outcome limit :=
  (rule.step s).outcome

theorem operand_eq_step (row : Chain) (s : State limit) :
    operand row s = (operandRule row).step s := by
  cases row <;> rw [operand] <;> rfl

theorem outcome_operand (row : Chain) (s : State limit) :
    (operand row s).outcome = (operandRule row).outcome s :=
  congrArg Step.outcome (operand_eq_step row s)

def FailsWith (error : ParseError) (log : List LogRecord) : Outcome limit → Prop
  | .parsed _ _ => False
  | .failed found after => found = error ∧ after.log = log ++ error.records

theorem FailsWith.exists_eq {error : ParseError} {log : List LogRecord} {o : Outcome limit}
    (fails : FailsWith error log o) :
    ∃ after, o = .failed error after ∧ after.log = log ++ error.records := by
  cases o with
  | parsed node after => cases fails
  | failed found after =>
    obtain ⟨rfl, records⟩ := fails
    exact ⟨after, rfl, records⟩

theorem FailsWith.leave {error : ParseError} {log : List LogRecord} {o : Outcome limit}
    (fails : FailsWith error log o) (s : State limit) : FailsWith error log (o.leave s) := by
  obtain ⟨after, rfl, records⟩ := fails.exists_eq
  exact ⟨rfl, records⟩

theorem FailsWith.andThen {error : ParseError} {log : List LogRecord} {o : Outcome limit}
    (fails : FailsWith error log o) (onward : Expr → State limit → Outcome limit) :
    FailsWith error log (o.andThen onward) := by
  obtain ⟨after, rfl, records⟩ := fails.exists_eq
  exact ⟨rfl, records⟩

theorem failsWith_tooDeep (s : State limit) :
    FailsWith (.tooDeep limit) s.log (.failed (.tooDeep limit) s) :=
  ⟨rfl, (List.append_nil _).symm⟩

section Rules

variable {s : State limit} {t : Token} {rest us : List Token} {depth : Nat}
  {depth_le : depth ≤ limit} {log : List LogRecord} {e : Expr} {error : ParseError}

theorem expression_fails
    (inner : ∀ room : s.depth < limit,
      FailsWith error s.log (chain .sums (s.deeper room)).outcome)
    (noRoom : ¬ s.depth < limit → error = .tooDeep limit) :
    FailsWith error s.log (Parser.expression s).outcome := by
  rw [outcome_expression]
  split <;> rename_i room
  · exact (inner room).leave s
  · rw [noRoom room]
    exact failsWith_tooDeep s

theorem chain_fails {row : Chain}
    (operand : FailsWith error s.log ((operandRule row).outcome s)) :
    FailsWith error s.log (Parser.chain row s).outcome := by
  rw [outcome_chain, outcome_operand]
  exact (operand.andThen _).leave s

theorem chainAfter_fails {row : Chain} {op : Token} (kind : row.continues op.kind = true)
    (operand : ∀ room : depth < limit,
      FailsWith error log ((operandRule row).outcome ⟨rest, depth + 1, room, log⟩))
    (noRoom : ¬ depth < limit → error = .tooDeep limit) :
    FailsWith error log (chainAfter row e ⟨op :: rest, depth, depth_le, log⟩).outcome := by
  obtain ⟨o, operator⟩ := exists_operator_of_continues kind
  rw [outcome_chainAfter_cons kind operator]
  split <;> rename_i room
  · rw [outcome_operand]
    exact (operand room).andThen _
  · rw [noRoom room]
    exact failsWith_tooDeep ⟨op :: rest, depth, depth_le, log⟩

theorem power_fails (base : FailsWith error s.log (Parser.unary s).outcome) :
    FailsWith error s.log (Parser.power s).outcome := by
  obtain ⟨after, eq, records⟩ := base.exists_eq
  rw [outcome_power_of_failed eq]
  exact ⟨rfl, records⟩

theorem exponent_fails {op : Token}
    (base : (Parser.unary s).outcome = .parsed e ⟨op :: rest, depth, depth_le, log⟩)
    (kind : isPower op.kind = true)
    (exponent : ∀ room : depth < limit,
      FailsWith error log (Parser.power ⟨rest, depth + 1, room, log⟩).outcome)
    (noRoom : ¬ depth < limit → error = .tooDeep limit) :
    FailsWith error log (Parser.power s).outcome := by
  obtain ⟨o, operator⟩ := exists_operator_of_isPower kind
  rw [outcome_power_of_goesOn base kind operator]
  split <;> rename_i room
  · exact ((exponent room).leave _).andThen _
  · rw [noRoom room]
    exact failsWith_tooDeep ⟨rest, depth, depth_le, log⟩

theorem minus_fails (kind : t.kind = .minus)
    (operand : FailsWith error log (Parser.primary ⟨rest, depth, depth_le, log⟩).outcome) :
    FailsWith error log (Parser.unary ⟨t :: rest, depth, depth_le, log⟩).outcome := by
  rw [outcome_unary_of_minus kind]
  exact operand.andThen _

theorem group_fails (kind : t.kind = .openParen)
    (inner : FailsWith error log (Parser.expression ⟨rest, depth, depth_le, log⟩).outcome) :
    FailsWith error log (Parser.group ⟨t :: rest, depth, depth_le, log⟩).outcome := by
  rw [outcome_group_of_opened kind]
  exact inner.andThen _

theorem outcome_parens (kind : t.kind = .openParen) :
    (Parser.primary ⟨t :: rest, depth, depth_le, log⟩).outcome =
      (Parser.group ⟨t :: rest, depth, depth_le, log⟩).outcome := by
  rw [outcome_primary_cons]
  simp [kind, isVariable]

theorem outcome_call {f : Function} (kind : Function.ofKind? t.kind = some f) :
    (Parser.primary ⟨t :: rest, depth, depth_le, log⟩).outcome =
      (Parser.group ⟨rest, depth, depth_le, log⟩).outcome.andThen fun argument after =>
        .parsed (.call f argument) after := by
  have function := isFunction_of_ofKind? kind
  have others : t.kind ≠ .number ∧ isVariable t.kind = false ∧ t.kind ≠ .openParen := by
    revert function
    cases t.kind <;> simp [isFunction, isVariable]
  rw [outcome_primary_cons]
  simp only [others, function, Bool.false_eq_true, if_false, if_true, Expr.ofFunction, kind]
  rfl

theorem call_fails {f : Function} (kind : Function.ofKind? t.kind = some f)
    (argument : FailsWith error log (Parser.group ⟨rest, depth, depth_le, log⟩).outcome) :
    FailsWith error log (Parser.primary ⟨t :: rest, depth, depth_le, log⟩).outcome := by
  rw [outcome_call kind]
  exact argument.andThen _

end Rules

/-- Read from the state `s`, a phrase that needs `c` levels stands for the expression `e`, and
`rest` is left. -/
def Reads (s : State limit) (c : Nat) (e : Expr) (rest : List Token) (o : Outcome limit) : Prop :=
  if s.depth + c ≤ limit then o = .parsed e (s.withRest rest)
  else FailsWith (.tooDeep limit) s.log o

/-- A row of operands, read from the state `s`: the expression `e` of `n` operators has been built,
and the row may go on with `rest`. -/
def Continues (row : Chain) (n : Nat) (s : State limit) (c : Nat) (e : Expr) (rest : List Token) :
    Prop :=
  if s.depth + c ≤ limit then
    ∃ depth_le : s.depth + n ≤ limit,
      (chain row s).outcome =
        (chainAfter row e ⟨rest, s.depth + n, depth_le, s.log⟩).outcome.leave s
  else FailsWith (.tooDeep limit) s.log (chain row s).outcome

/-- What the parser does with the tokens of a phrase: an expression is read from them, but of a row
only as far as it goes on. -/
def Readable (limit : Nat) : Rule → List Token → Expr → Nat → Prop
  | .row kind n, ts, e, c =>
    ∀ rest depth (depth_le : depth ≤ limit) log, Stops (operandRule kind) rest →
      Continues kind n ⟨ts ++ rest, depth, depth_le, log⟩ c e rest
  | rule, ts, e, c =>
    ∀ rest depth (depth_le : depth ≤ limit) log, Stops rule rest →
      Reads ⟨ts ++ rest, depth, depth_le, log⟩ c e rest
        (rule.outcome ⟨ts ++ rest, depth, depth_le, log⟩)

theorem readable_operandRule {kind : Chain} {ts : List Token} {e : Expr} {c : Nat} :
    Readable limit (operandRule kind) ts e c ↔
      ∀ rest depth (depth_le : depth ≤ limit) log, Stops (operandRule kind) rest →
        Reads ⟨ts ++ rest, depth, depth_le, log⟩ c e rest
          ((operandRule kind).outcome ⟨ts ++ rest, depth, depth_le, log⟩) := by
  cases kind <;> exact Iff.rfl

namespace Readable

section

variable {t : Token} {ts us : List Token} {e f : Expr} {c d n : Nat}

theorem number {v : Float} (kind : t.kind = .number) (value : HasValue t v) :
    Readable limit .primary [t] (.literal v) 0 := by
  intro rest depth depth_le log stop
  have room : depth + 0 ≤ limit := depth_le
  rw [Reads, if_pos room]
  simp only [Rule.outcome, Rule.step, List.singleton_append, outcome_primary_cons, kind, if_true,
    Expr.ofNumber, finiteValue, value.1, value.2]
  rfl

theorem var {name : Var} (kind : Var.ofKind? t.kind = some name) :
    Readable limit .primary [t] (.var name) 0 := by
  intro rest depth depth_le log stop
  have room : depth + 0 ≤ limit := depth_le
  have letter := isVariable_of_ofKind? kind
  have noNumber : t.kind ≠ .number := by
    intro eq
    rw [eq] at letter
    cases letter
  rw [Reads, if_pos room]
  simp only [Rule.outcome, Rule.step, List.singleton_append, outcome_primary_cons, noNumber,
    if_false, letter, if_true, Expr.ofVariable, kind]
  rfl

theorem parens (phrase : Phrase .group ts e c) (inner : Readable limit .group ts e c) :
    Readable limit .primary ts e c := by
  intro rest depth depth_le log stop
  obtain ⟨t, us, rfl, kind⟩ := phrase.group_head
  have read := inner rest depth depth_le log fun _ _ => rfl
  simp only [Rule.outcome, Rule.step, List.cons_append] at read ⊢
  rw [outcome_parens kind]
  exact read

theorem call {g : Function} (kind : Function.ofKind? t.kind = some g)
    (argument : Readable limit .group ts e c) :
    Readable limit .primary (t :: ts) (.call g e) c := by
  intro rest depth depth_le log stop
  have read := argument rest depth depth_le log fun _ _ => rfl
  simp only [Rule.outcome, Rule.step, List.cons_append, Reads] at read ⊢
  split at read <;> rename_i room
  · rw [if_pos room, outcome_call kind, read]
    rfl
  · rw [if_neg room]
    exact call_fails kind read

theorem group {opening closing : Token} (left : opening.kind = .openParen)
    (right : closing.kind = .closeParen) (inner : Readable limit .expression ts e c) :
    Readable limit .group (opening :: (ts ++ [closing])) e c := by
  intro rest depth depth_le log stop
  have closes : Stops .expression (closing :: rest) := stops_cons.mpr (by rw [right]; rfl)
  have read := inner (closing :: rest) depth depth_le log closes
  rw [List.cons_append, List.append_assoc, List.singleton_append]
  simp only [Rule.outcome, Rule.step, Reads] at read ⊢
  split at read <;> rename_i room
  · rw [if_pos room, outcome_group_of_opened left, read]
    exact if_pos right
  · rw [if_neg room]
    exact group_fails left read

theorem plain (phrase : Phrase .primary ts e c) (operand : Readable limit .primary ts e c) :
    Readable limit .unary ts e c := by
  intro rest depth depth_le log stop
  have read := operand rest depth depth_le log fun _ _ => rfl
  obtain ⟨t, us, rfl, begins⟩ := phrase.primary_head
  have unsigned : ∀ u ∈ (t :: us ++ rest).head?, u.kind ≠ .minus := by
    intro u member eq
    cases member
    rw [eq] at begins
    cases begins
  simp only [Rule.outcome, Rule.step] at read ⊢
  rw [outcome_unary_of_plain unsigned]
  exact read

theorem minus (kind : t.kind = .minus) (operand : Readable limit .primary ts e c) :
    Readable limit .unary (t :: ts) (.negate e) c := by
  intro rest depth depth_le log stop
  have read := operand rest depth depth_le log fun _ _ => rfl
  simp only [Rule.outcome, Rule.step, List.cons_append, Reads] at read ⊢
  split at read <;> rename_i room
  · rw [if_pos room, outcome_unary_of_minus kind, read]
    rfl
  · rw [if_neg room]
    exact minus_fails kind read

theorem base (operand : Readable limit .unary ts e c) : Readable limit .power ts e c := by
  intro rest depth depth_le log stop
  have read := operand rest depth depth_le log fun _ _ => rfl
  simp only [Rule.outcome, Rule.step, Reads] at read ⊢
  split at read <;> rename_i room
  · rw [if_pos room, outcome_power_of_stop read stop]
  · rw [if_neg room]
    exact power_fails read

theorem power {op : Token} {o : BinaryOp} (kind : isPower op.kind = true)
    (operator : BinaryOp.ofKind? op.kind = some o) (left : Readable limit .unary ts e c)
    (right : Readable limit .power us f d) :
    Readable limit .power (ts ++ op :: us) (.binary o e f) (max c (1 + d)) := by
  intro rest depth depth_le log stop
  have base := left (op :: (us ++ rest)) depth depth_le log fun _ _ => rfl
  rw [List.append_assoc, List.cons_append]
  simp only [Rule.outcome, Rule.step, Reads] at base ⊢
  split <;> rename_i room
  · rw [if_pos (by omega)] at base
    have deeper : depth < limit := by omega
    have exponent := right rest (depth + 1) deeper log stop
    rw [Reads, if_pos (by simp only; omega)] at exponent
    simp only [Rule.outcome, Rule.step] at exponent
    rw [outcome_power_of_goesOn base kind operator, dif_pos deeper, exponent]
    rfl
  · split at base
    · refine exponent_fails base kind (fun deeper => ?_) fun _ => rfl
      have exponent := right rest (depth + 1) deeper log stop
      rw [Reads, if_neg (by simp only; omega)] at exponent
      exact exponent
    · exact power_fails base

theorem single {kind : Chain} (operand : Readable limit (operandRule kind) ts e c) :
    Readable limit (.row kind 0) ts e c := by
  intro rest depth depth_le log stop
  have read := readable_operandRule.mp operand rest depth depth_le log stop
  simp only [Reads, Continues] at read ⊢
  split at read <;> rename_i room
  · rw [if_pos room]
    refine ⟨depth_le, ?_⟩
    rw [outcome_chain, outcome_operand, read]
    rfl
  · rw [if_neg room]
    exact chain_fails read

theorem next {row : Chain} {op : Token} {o : BinaryOp} (kind : row.continues op.kind = true)
    (operator : BinaryOp.ofKind? op.kind = some o) (left : Readable limit (.row row n) ts e c)
    (right : Readable limit (operandRule row) us f d) :
    Readable limit (.row row (n + 1)) (ts ++ op :: us) (.binary o e f) (max c (n + 1 + d)) := by
  intro rest depth depth_le log stop
  have goesOn : Stops (operandRule row) (op :: (us ++ rest)) :=
    stops_cons.mpr (goesOn_operandRule_of_continues kind)
  have start := left (op :: (us ++ rest)) depth depth_le log goesOn
  rw [List.append_assoc, List.cons_append]
  simp only [Continues] at start ⊢
  split <;> rename_i room
  · rw [if_pos (by omega)] at start
    obtain ⟨start_le, start⟩ := start
    have deeper : depth + n < limit := by omega
    have operand := readable_operandRule.mp right rest (depth + n + 1) deeper log stop
    rw [Reads, if_pos (by simp only; omega), ← outcome_operand] at operand
    refine ⟨deeper, ?_⟩
    rw [start, outcome_chainAfter_cons kind operator, dif_pos deeper, operand]
    rfl
  · split at start
    · obtain ⟨start_le, start⟩ := start
      rw [start]
      refine FailsWith.leave (chainAfter_fails kind (fun deeper => ?_) fun _ => rfl) _
      have operand := readable_operandRule.mp right rest (depth + n + 1) deeper log stop
      rw [Reads, if_neg (by simp only; omega)] at operand
      exact operand
    · exact start

theorem chain {kind : Chain} (operands : Readable limit (.row kind n) ts e c) :
    Readable limit (.chain kind) ts e c := by
  intro rest depth depth_le log stop
  obtain ⟨tighter, ends⟩ := stops_chain_iff.mp stop
  have read := operands rest depth depth_le log tighter
  simp only [Continues, Reads, Rule.outcome, Rule.step] at read ⊢
  split at read <;> rename_i room
  · obtain ⟨row_le, read⟩ := read
    rw [if_pos room, read, outcome_chainAfter_of_stop ends]
    rfl
  · rw [if_neg room]
    exact read

theorem expression (row : Readable limit (.chain .sums) ts e c) :
    Readable limit .expression ts e (1 + c) := by
  intro rest depth depth_le log stop
  simp only [Reads, Rule.outcome, Rule.step]
  split <;> rename_i room
  · have deeper : depth < limit := by omega
    have read := row rest (depth + 1) deeper log stop
    rw [Reads, if_pos (by simp only; omega)] at read
    simp only [Rule.outcome, Rule.step] at read
    rw [outcome_expression, dif_pos deeper, read]
    rfl
  · refine expression_fails (fun deeper => ?_) fun _ => rfl
    have read := row rest (depth + 1) deeper log stop
    rw [Reads, if_neg (by simp only; omega)] at read
    exact read

end

end Readable

theorem Phrase.readable {rule : Rule} {ts : List Token} {e : Expr} {c : Nat}
    (phrase : Phrase rule ts e c) (limit : Nat) : Readable limit rule ts e c := by
  induction phrase with
  | number kind value => exact .number kind value
  | var kind => exact .var kind
  | parens inner ih => exact .parens inner ih
  | call kind argument ih => exact .call kind ih
  | group left right inner ih => exact .group left right ih
  | plain operand ih => exact .plain operand ih
  | minus kind operand ih => exact .minus kind ih
  | base operand ih => exact .base ih
  | power kind operator left right ihLeft ihRight => exact .power kind operator ihLeft ihRight
  | single operand ih => exact .single ih
  | next kind operator left right ihLeft ihRight => exact .next kind operator ihLeft ihRight
  | chain operands ih => exact .chain ih
  | expression row ih => exact .expression ih

/-- What the parser does at a fault behind the tokens `before`. -/
def Breaks (limit : Nat) (rule : Rule) (before rest : List Token) (c : Nat) (error : ParseError) :
    Prop :=
  ∀ depth (depth_le : depth ≤ limit) log,
    FailsWith (if depth + c ≤ limit then error else .tooDeep limit) log
      (rule.outcome ⟨before ++ rest, depth, depth_le, log⟩)

namespace Breaks

section

variable {t : Token} {ts before rest : List Token} {e : Expr} {c d n : Nat} {error : ParseError}

theorem at_once {rule : Rule}
    (fails : ∀ depth (depth_le : depth ≤ limit) log,
      FailsWith error log (rule.outcome ⟨rest, depth, depth_le, log⟩)) :
    Breaks limit rule [] rest 0 error := by
  intro depth depth_le log
  have room : depth + 0 ≤ limit := depth_le
  rw [if_pos room]
  exact fails depth depth_le log

theorem number {cause : NodeError} (kind : t.kind = .number)
    (noValue : finiteValue t.text = .error cause) :
    Breaks limit .primary [] (t :: rest) 0 (.node cause) := by
  refine at_once fun depth depth_le log => ?_
  simp only [Rule.outcome, Rule.step, outcome_primary_cons, kind, if_true, Expr.ofNumber, noValue]
  exact ⟨rfl, rfl⟩

theorem unknown (kind : t.kind = .unknown) :
    Breaks limit .primary [] (t :: rest) 0 (.unknown t.text) := by
  refine at_once fun depth depth_le log => ?_
  simp only [Rule.outcome, Rule.step, outcome_primary_cons, kind]
  exact ⟨if_pos kind, (List.append_nil _).symm⟩

theorem unexpected (noOperand : beginsPrimary (facing rest).kind = false)
    (known : (facing rest).kind ≠ .unknown) :
    Breaks limit .primary [] rest 0 (.unexpected (facing rest)) := by
  refine at_once fun depth depth_le log => ?_
  simp only [Rule.outcome, Rule.step]
  cases rest with
  | nil =>
    rw [outcome_primary_nil]
    exact ⟨rfl, (List.append_nil _).symm⟩
  | cons t rest =>
    rw [facing_cons] at noOperand known ⊢
    simp only [beginsPrimary, Bool.or_eq_false_iff, beq_eq_false_iff_ne] at noOperand
    simp only [outcome_primary_cons, noOperand, if_false, Bool.false_eq_true]
    exact ⟨if_neg known, (List.append_nil _).symm⟩

theorem parens (kind : t.kind = .openParen)
    (inner : Breaks limit .group (t :: before) rest c error) :
    Breaks limit .primary (t :: before) rest c error := by
  intro depth depth_le log
  have fails := inner depth depth_le log
  simp only [Rule.outcome, Rule.step, List.cons_append] at fails ⊢
  rw [outcome_parens kind]
  exact fails

theorem call {f : Function} (kind : Function.ofKind? t.kind = some f)
    (argument : Breaks limit .group before rest c error) :
    Breaks limit .primary (t :: before) rest c error :=
  fun depth depth_le log => call_fails kind (argument depth depth_le log)

theorem unopened (missing : (facing rest).kind ≠ .openParen) :
    Breaks limit .group [] rest 0 (.missing .openParen (facing rest)) := by
  refine at_once fun depth depth_le log => ?_
  have noGroup : ∀ t ∈ rest.head?, t.kind ≠ .openParen := by
    intro t member
    obtain ⟨tail, rfl⟩ := List.head?_eq_some_iff.mp member
    exact missing
  simp only [Rule.outcome, Rule.step]
  rw [outcome_group_of_unopened noGroup]
  exact ⟨rfl, (List.append_nil _).symm⟩

theorem inside (kind : t.kind = .openParen)
    (inner : Breaks limit .expression before rest c error) :
    Breaks limit .group (t :: before) rest c error :=
  fun depth depth_le log => group_fails kind (inner depth depth_le log)

theorem unclosed (kind : t.kind = .openParen) (inner : Phrase .expression ts e c)
    (stop : Stops .expression rest) (missing : (facing rest).kind ≠ .closeParen) :
    Breaks limit .group (t :: ts) rest c (.missing .closeParen (facing rest)) := by
  intro depth depth_le log
  have read := inner.readable limit rest depth depth_le log stop
  simp only [Rule.outcome, Rule.step, List.cons_append, Reads] at read ⊢
  split at read <;> rename_i room
  · rw [if_pos room, outcome_group_of_opened kind, read]
    simp only [Outcome.andThen, missing, if_false]
    exact ⟨rfl, (List.append_nil _).symm⟩
  · rw [if_neg room]
    exact group_fails kind read

theorem plain (unsigned : ∀ t ∈ (before ++ rest).head?, t.kind ≠ .minus)
    (operand : Breaks limit .primary before rest c error) :
    Breaks limit .unary before rest c error := by
  intro depth depth_le log
  simp only [Rule.outcome, Rule.step]
  rw [outcome_unary_of_plain unsigned]
  exact operand depth depth_le log

theorem minus (kind : t.kind = .minus) (operand : Breaks limit .primary before rest c error) :
    Breaks limit .unary (t :: before) rest c error :=
  fun depth depth_le log => minus_fails kind (operand depth depth_le log)

theorem base (operand : Breaks limit .unary before rest c error) :
    Breaks limit .power before rest c error :=
  fun depth depth_le log => power_fails (operand depth depth_le log)

theorem exponent {op : Token} (kind : isPower op.kind = true) (left : Phrase .unary ts e c)
    (right : Breaks limit .power before rest d error) :
    Breaks limit .power (ts ++ op :: before) rest (max c (1 + d)) error := by
  intro depth depth_le log
  have base := left.readable limit (op :: (before ++ rest)) depth depth_le log fun _ _ => rfl
  rw [List.append_assoc, List.cons_append]
  simp only [Rule.outcome, Rule.step, Reads] at base ⊢
  split at base <;> rename_i room
  · refine exponent_fails base kind (fun deeper => ?_) fun noRoom =>
      if_neg (by simp only at noRoom; omega)
    have fails := right (depth + 1) deeper log
    have same : depth + 1 + d ≤ limit ↔ depth + max c (1 + d) ≤ limit := by omega
    simp only [same] at fails
    exact fails
  · rw [if_neg (by omega)]
    exact power_fails base

theorem first {kind : Chain} (operand : Breaks limit (operandRule kind) before rest c error) :
    Breaks limit (.chain kind) before rest c error :=
  fun depth depth_le log => chain_fails (operand depth depth_le log)

theorem next {row : Chain} {op : Token} (kind : row.continues op.kind = true)
    (left : Phrase (.row row n) ts e c)
    (right : Breaks limit (operandRule row) before rest d error) :
    Breaks limit (.chain row) (ts ++ op :: before) rest (max c (n + 1 + d)) error := by
  intro depth depth_le log
  have goesOn : Stops (operandRule row) (op :: (before ++ rest)) :=
    stops_cons.mpr (goesOn_operandRule_of_continues kind)
  have start := left.readable limit (op :: (before ++ rest)) depth depth_le log goesOn
  rw [List.append_assoc, List.cons_append]
  simp only [Rule.outcome, Rule.step, Continues] at start ⊢
  split at start <;> rename_i room
  · obtain ⟨start_le, start⟩ := start
    rw [start]
    refine FailsWith.leave (chainAfter_fails kind (fun deeper => ?_) fun noRoom =>
      if_neg (by omega)) _
    have fails := right (depth + n + 1) deeper log
    have same : depth + n + 1 + d ≤ limit ↔ depth + max c (n + 1 + d) ≤ limit := by omega
    simp only [same] at fails
    exact fails
  · rw [if_neg (by omega)]
    exact start

theorem expression (row : Breaks limit (.chain .sums) before rest c error) :
    Breaks limit .expression before rest (1 + c) error := by
  intro depth depth_le log
  refine expression_fails (fun deeper => ?_) fun noRoom => if_neg (by simp only at noRoom; omega)
  have fails := row (depth + 1) deeper log
  have same : depth + 1 + c ≤ limit ↔ depth + (1 + c) ≤ limit := by omega
  simp only [same] at fails
  exact fails

end

end Breaks

theorem Fault.breaks {rule : Rule} {before rest : List Token} {c : Nat} {error : ParseError}
    (fault : Fault rule before rest c error) (limit : Nat) :
    Breaks limit rule before rest c error := by
  induction fault with
  | number kind noValue => exact .number kind noValue
  | unknown kind => exact .unknown kind
  | unexpected noOperand known => exact .unexpected noOperand known
  | parens kind inner ih => exact .parens kind ih
  | call kind argument ih => exact .call kind ih
  | unopened missing => exact .unopened missing
  | inside kind inner ih => exact .inside kind ih
  | unclosed kind inner stop missing => exact .unclosed kind inner stop missing
  | plain unsigned operand ih => exact .plain unsigned ih
  | minus kind operand ih => exact .minus kind ih
  | base operand ih => exact .base ih
  | exponent kind left right ih => exact .exponent kind left ih
  | first operand ih => exact .first ih
  | next kind left right ih => exact .next kind left ih
  | expression row ih => exact .expression ih

end SurfaceLang.Grammar
