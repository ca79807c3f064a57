import SurfaceLang.Parser

namespace SurfaceLang.Grammar

open SurfaceLang.Parser

/-- The sorts of phrases. A row with `operators` operators has one operand more. -/
inductive Rule where
  | expression
  | chain (row : Chain)
  | row (row : Chain) (operators : Nat)
  | power
  | unary
  | primary
  | group
  deriving DecidableEq, Repr

def operandRule : Chain → Rule
  | .sums => .chain .products
  | .products => .power

def HasValue (t : Token) (v : Float) : Prop :=
  readFloat t.text = .ok v ∧ (Binary64.of v).isFinite = true

/-- The tokens are a phrase of the given sort, they stand for the expression, and they need the
given number of levels.

An expression needs a level of its own, and so does the right operand of `**` and `//`. The operands
of a row are numbered from zero, and operand number `i` needs `i` levels besides its own. -/
inductive Phrase : Rule → List Token → Expr → Nat → Prop where
  | number {t : Token} {v : Float} (kind : t.kind = .number) (value : HasValue t v) :
      Phrase .primary [t] (.literal v) 0
  | var {t : Token} {name : Var} (kind : Var.ofKind? t.kind = some name) :
      Phrase .primary [t] (.var name) 0
  | parens {ts : List Token} {e : Expr} {c : Nat} (inner : Phrase .group ts e c) :
      Phrase .primary ts e c
  | call {t : Token} {f : Function} {ts : List Token} {e : Expr} {c : Nat}
      (kind : Function.ofKind? t.kind = some f) (argument : Phrase .group ts e c) :
      Phrase .primary (t :: ts) (.call f e) c
  | group {opening closing : Token} {ts : List Token} {e : Expr} {c : Nat}
      (left : opening.kind = .openParen) (right : closing.kind = .closeParen)
      (inner : Phrase .expression ts e c) : Phrase .group (opening :: (ts ++ [closing])) e c
  | plain {ts : List Token} {e : Expr} {c : Nat} (operand : Phrase .primary ts e c) :
      Phrase .unary ts e c
  | minus {t : Token} {ts : List Token} {e : Expr} {c : Nat} (kind : t.kind = .minus)
      (operand : Phrase .primary ts e c) : Phrase .unary (t :: ts) (.negate e) c
  | base {ts : List Token} {e : Expr} {c : Nat} (operand : Phrase .unary ts e c) :
      Phrase .power ts e c
  | power {op : Token} {o : BinaryOp} {ts us : List Token} {e f : Expr} {c d : Nat}
      (kind : isPower op.kind = true) (operator : BinaryOp.ofKind? op.kind = some o)
      (left : Phrase .unary ts e c) (right : Phrase .power us f d) :
      Phrase .power (ts ++ op :: us) (.binary o e f) (max c (1 + d))
  | single {row : Chain} {ts : List Token} {e : Expr} {c : Nat}
      (operand : Phrase (operandRule row) ts e c) : Phrase (.row row 0) ts e c
  | next {row : Chain} {n : Nat} {op : Token} {o : BinaryOp} {ts us : List Token} {e f : Expr}
      {c d : Nat} (kind : row.continues op.kind = true)
      (operator : BinaryOp.ofKind? op.kind = some o) (left : Phrase (.row row n) ts e c)
      (right : Phrase (operandRule row) us f d) :
      Phrase (.row row (n + 1)) (ts ++ op :: us) (.binary o e f) (max c (n + 1 + d))
  | chain {row : Chain} {n : Nat} {ts : List Token} {e : Expr} {c : Nat}
      (operands : Phrase (.row row n) ts e c) : Phrase (.chain row) ts e c
  | expression {ts : List Token} {e : Expr} {c : Nat} (row : Phrase (.chain .sums) ts e c) :
      Phrase .expression ts e (1 + c)

def IsPhrase (rule : Rule) (ts : List Token) : Prop :=
  ∃ e c, Phrase rule ts e c

def beginsPrimary (kind : TokenKind) : Bool :=
  kind == .number || isVariable kind || kind == .openParen || isFunction kind

/-- Whether a token of this kind, standing behind a phrase, goes on with it. -/
def Rule.goesOn : Rule → TokenKind → Bool
  | .expression, kind | .chain .sums, kind | .row .sums _, kind =>
    isPower kind || Chain.products.continues kind || Chain.sums.continues kind
  | .chain .products, kind | .row .products _, kind =>
    isPower kind || Chain.products.continues kind
  | .power, kind => isPower kind
  | .unary, _ | .primary, _ | .group, _ => false

/-- A phrase of this sort ends before the tokens `rest`. -/
def Stops (rule : Rule) (rest : List Token) : Prop :=
  ∀ t ∈ rest.head?, rule.goesOn t.kind = false

def openToken : Token :=
  ⟨.openParen, "("⟩

def closeToken : Token :=
  ⟨.closeParen, ")"⟩

def xToken : Token :=
  ⟨.varX, "x"⟩

theorem isVariable_of_ofKind? {kind : TokenKind} {name : Var}
    (h : Var.ofKind? kind = some name) : isVariable kind = true := by
  cases kind <;> first | rfl | cases h

theorem isFunction_of_ofKind? {kind : TokenKind} {f : Function}
    (h : Function.ofKind? kind = some f) : isFunction kind = true := by
  cases kind <;> first | rfl | cases h

theorem exists_operator_of_isPower {kind : TokenKind} (h : isPower kind = true) :
    ∃ o, BinaryOp.ofKind? kind = some o := by
  cases kind <;> first | exact ⟨_, rfl⟩ | cases h

theorem exists_operator_of_continues {row : Chain} {kind : TokenKind}
    (h : row.continues kind = true) : ∃ o, BinaryOp.ofKind? kind = some o := by
  cases row <;> cases kind <;> first | exact ⟨_, rfl⟩ | cases h

theorem goesOn_operandRule_of_continues {row : Chain} {kind : TokenKind}
    (h : row.continues kind = true) : (operandRule row).goesOn kind = false := by
  cases row <;> cases kind <;> first | rfl | cases h

theorem goesOn_eq_false_of_beginsPrimary {kind : TokenKind} (h : beginsPrimary kind = true)
    (rule : Rule) : rule.goesOn kind = false := by
  rcases rule with _ | row | ⟨row, n⟩ | _ | _ | _ | _ <;> try cases row
  all_goals cases kind <;> first | rfl | cases h

theorem Stops.nil (rule : Rule) : Stops rule [] :=
  fun _ member => by cases member

theorem stops_cons {rule : Rule} {t : Token} {rest : List Token} :
    Stops rule (t :: rest) ↔ rule.goesOn t.kind = false := by
  simp [Stops]

theorem stops_chain_iff {row : Chain} {rest : List Token} :
    Stops (.chain row) rest ↔
      Stops (operandRule row) rest ∧ ∀ t ∈ rest.head?, row.continues t.kind = false := by
  cases rest with
  | nil => simp [Stops]
  | cons t rest => cases row <;> simp [Stops, operandRule, Rule.goesOn]

def endsPhrase (kind : TokenKind) : Bool :=
  kind == .number || isVariable kind || kind == .closeParen

theorem Phrase.group_head {ts : List Token} {e : Expr} {c : Nat} (phrase : Phrase .group ts e c) :
    ∃ t rest, ts = t :: rest ∧ t.kind = .openParen := by
  cases phrase with
  | group left right inner => exact ⟨_, _, rfl, left⟩

theorem Phrase.primary_head {ts : List Token} {e : Expr} {c : Nat}
    (phrase : Phrase .primary ts e c) : ∃ t rest, ts = t :: rest ∧ beginsPrimary t.kind = true := by
  cases phrase with
  | number kind value => exact ⟨_, _, rfl, by simp [beginsPrimary, kind]⟩
  | var kind => exact ⟨_, _, rfl, by simp [beginsPrimary, isVariable_of_ofKind? kind]⟩
  | parens inner =>
    obtain ⟨t, rest, rfl, kind⟩ := inner.group_head
    exact ⟨t, rest, rfl, by simp [beginsPrimary, kind]⟩
  | call kind argument => exact ⟨_, _, rfl, by simp [beginsPrimary, isFunction_of_ofKind? kind]⟩

theorem Phrase.head {rule : Rule} {ts : List Token} {e : Expr} {c : Nat}
    (phrase : Phrase rule ts e c) :
    ∃ t rest, ts = t :: rest ∧ (beginsPrimary t.kind = true ∨ t.kind = .minus) := by
  induction phrase with
  | number kind value => exact ⟨_, _, rfl, .inl (by simp [beginsPrimary, kind])⟩
  | var kind => exact ⟨_, _, rfl, .inl (by simp [beginsPrimary, isVariable_of_ofKind? kind])⟩
  | call kind argument ih =>
    exact ⟨_, _, rfl, .inl (by simp [beginsPrimary, isFunction_of_ofKind? kind])⟩
  | group left right inner ih => exact ⟨_, _, rfl, .inl (by simp [beginsPrimary, left])⟩
  | minus kind operand ih => exact ⟨_, _, rfl, .inr kind⟩
  | parens inner ih | plain inner ih | base inner ih | single inner ih | chain inner ih
  | expression inner ih => exact ih
  | power kind operator left right ihLeft ihRight
  | next kind operator left right ihLeft ihRight =>
    obtain ⟨t, rest, rfl, begins⟩ := ihLeft
    exact ⟨t, _, rfl, begins⟩

theorem Phrase.ne_nil {rule : Rule} {ts : List Token} {e : Expr} {c : Nat}
    (phrase : Phrase rule ts e c) : ts ≠ [] := by
  obtain ⟨t, rest, rfl, _⟩ := phrase.head
  exact List.cons_ne_nil t rest

theorem Phrase.last {rule : Rule} {ts : List Token} {e : Expr} {c : Nat}
    (phrase : Phrase rule ts e c) :
    ∃ before t, ts = before ++ [t] ∧ endsPhrase t.kind = true := by
  induction phrase with
  | number kind value => exact ⟨[], _, rfl, by simp [endsPhrase, kind]⟩
  | var kind => exact ⟨[], _, rfl, by simp [endsPhrase, isVariable_of_ofKind? kind]⟩
  | group left right inner ih =>
    exact ⟨_, _, (List.cons_append ..).symm, by simp [endsPhrase, right]⟩
  | parens inner ih | plain inner ih | base inner ih | single inner ih | chain inner ih
  | expression inner ih => exact ih
  | call kind operand ih | minus kind operand ih =>
    obtain ⟨before, t, rfl, ends⟩ := ih
    exact ⟨_, t, (List.cons_append ..).symm, ends⟩
  | power kind operator left right ihLeft ihRight
  | next kind operator left right ihLeft ihRight =>
    obtain ⟨before, t, rfl, ends⟩ := ihRight
    exact ⟨_, t, (List.append_assoc _ (_ :: before) _).symm, ends⟩

def isMeaningful (kind : TokenKind) : Bool :=
  kind != .endOfInput && kind != .unknown

theorem isMeaningful_of_ofKind? {kind : TokenKind}
    (named : (Var.ofKind? kind).isSome ∨ (Function.ofKind? kind).isSome ∨
      (BinaryOp.ofKind? kind).isSome) : isMeaningful kind = true := by
  cases kind <;> first | rfl | simp [Var.ofKind?, Function.ofKind?, BinaryOp.ofKind?] at named

theorem ne_unknown_of_isMeaningful {kind : TokenKind} (meaningful : isMeaningful kind = true) :
    kind ≠ .unknown := by
  rintro rfl
  cases meaningful

theorem Phrase.isMeaningful {rule : Rule} {ts : List Token} {e : Expr} {c : Nat}
    (phrase : Phrase rule ts e c) : ∀ t ∈ ts, isMeaningful t.kind = true := by
  induction phrase with
  | number kind value =>
    intro t member
    rw [List.mem_singleton.mp member, kind]
    rfl
  | var kind =>
    intro t member
    rw [List.mem_singleton.mp member]
    exact isMeaningful_of_ofKind? (.inl (by rw [kind]; rfl))
  | parens inner ih | plain inner ih | base inner ih | single inner ih | chain inner ih
  | expression inner ih => exact ih
  | call kind argument ih =>
    exact List.forall_mem_cons.mpr ⟨isMeaningful_of_ofKind? (.inr (.inl (by rw [kind]; rfl))), ih⟩
  | minus kind operand ih => exact List.forall_mem_cons.mpr ⟨by rw [kind]; rfl, ih⟩
  | group left right inner ih =>
    refine List.forall_mem_cons.mpr ⟨by rw [left]; rfl, List.forall_mem_append.mpr ⟨ih, ?_⟩⟩
    exact List.forall_mem_singleton.mpr (by rw [right]; rfl)
  | power kind operator left right ihLeft ihRight
  | next kind operator left right ihLeft ihRight =>
    have named := isMeaningful_of_ofKind? (.inr (.inr (by rw [operator]; rfl)))
    exact List.forall_mem_append.mpr ⟨ihLeft, List.forall_mem_cons.mpr ⟨named, ihRight⟩⟩

theorem Phrase.operators_le {row : Chain} {n : Nat} {ts : List Token} {e : Expr} {c : Nat}
    (phrase : Phrase (.row row n) ts e c) : n ≤ c := by
  cases phrase with
  | single operand => exact Nat.zero_le c
  | next kind operator left right => omega

theorem Phrase.operators_lt_length {row : Chain} {n : Nat} {ts : List Token} {e : Expr} {c : Nat}
    (phrase : Phrase (.row row n) ts e c) : n < ts.length := by
  induction n generalizing ts e c with
  | zero => exact List.length_pos_iff.mpr phrase.ne_nil
  | succ n ih =>
    cases phrase with
    | next kind operator left right =>
      have fewer := ih left
      simp only [List.length_append, List.length_cons]
      omega

/-- How many tokens a phrase has at least beyond the levels that it needs. -/
def Rule.spare : Rule → Nat
  | .expression => 0
  | .group => 2
  | _ => 1

theorem spare_operandRule (row : Chain) : (operandRule row).spare = 1 := by
  cases row <;> rfl

theorem Phrase.cost_le {rule : Rule} {ts : List Token} {e : Expr} {c : Nat}
    (phrase : Phrase rule ts e c) : c + rule.spare ≤ ts.length := by
  induction phrase with
  | number | var => exact Nat.le_refl 1
  | parens inner ih => exact Nat.le_of_succ_le ih
  | plain inner ih | base inner ih | chain inner ih => exact ih
  | single inner ih =>
    rw [spare_operandRule] at ih
    exact ih
  | call kind argument ih =>
    simp only [Rule.spare, List.length_cons] at ih ⊢
    omega
  | minus kind operand ih => exact Nat.le_succ_of_le ih
  | group left right inner ih =>
    simp only [Rule.spare, List.length_cons, List.length_append] at ih ⊢
    omega
  | power kind operator left right ihLeft ihRight =>
    simp only [Rule.spare, List.length_cons, List.length_append] at ihLeft ihRight ⊢
    omega
  | next kind operator left right ihLeft ihRight =>
    have fewer := left.operators_lt_length
    simp only [Rule.spare, List.length_cons, List.length_append] at ihLeft ihRight ⊢
    omega
  | expression inner ih =>
    simp only [Rule.spare] at ih ⊢
    omega

end SurfaceLang.Grammar
