import SurfaceLang.Proofs.Grammar

namespace SurfaceLang.Grammar

open SurfaceLang.Parser

/-- The tokens `before` begin a phrase of the given sort, but it cannot go on with `rest`. Finding
this out takes the given number of levels. -/
inductive Fault : Rule → (before rest : List Token) → Nat → ParseError → Prop where
  | number {t : Token} {rest : List Token} {cause : NodeError} (kind : t.kind = .number)
      (noValue : finiteValue t.text = .error cause) :
      Fault .primary [] (t :: rest) 0 (.node cause)
  | unknown {t : Token} {rest : List Token} (kind : t.kind = .unknown) :
      Fault .primary [] (t :: rest) 0 (.unknown t.text)
  | unexpected {rest : List Token} (noOperand : beginsPrimary (facing rest).kind = false)
      (known : (facing rest).kind ≠ .unknown) :
      Fault .primary [] rest 0 (.unexpected (facing rest))
  | parens {t : Token} {before rest : List Token} {c : Nat} {error : ParseError}
      (kind : t.kind = .openParen) (inner : Fault .group (t :: before) rest c error) :
      Fault .primary (t :: before) rest c error
  | call {t : Token} {f : Function} {before rest : List Token} {c : Nat} {error : ParseError}
      (kind : Function.ofKind? t.kind = some f) (argument : Fault .group before rest c error) :
      Fault .primary (t :: before) rest c error
  | unopened {rest : List Token} (missing : (facing rest).kind ≠ .openParen) :
      Fault .group [] rest 0 (.missing .openParen (facing rest))
  | inside {t : Token} {before rest : List Token} {c : Nat} {error : ParseError}
      (kind : t.kind = .openParen) (inner : Fault .expression before rest c error) :
      Fault .group (t :: before) rest c error
  | unclosed {t : Token} {ts rest : List Token} {e : Expr} {c : Nat} (kind : t.kind = .openParen)
      (inner : Phrase .expression ts e c) (stop : Stops .expression rest)
      (missing : (facing rest).kind ≠ .closeParen) :
      Fault .group (t :: ts) rest c (.missing .closeParen (facing rest))
  | plain {before rest : List Token} {c : Nat} {error : ParseError}
      (unsigned : ∀ t ∈ (before ++ rest).head?, t.kind ≠ .minus)
      (operand : Fault .primary before rest c error) : Fault .unary before rest c error
  | minus {t : Token} {before rest : List Token} {c : Nat} {error : ParseError}
      (kind : t.kind = .minus) (operand : Fault .primary before rest c error) :
      Fault .unary (t :: before) rest c error
  | base {before rest : List Token} {c : Nat} {error : ParseError}
      (operand : Fault .unary before rest c error) : Fault .power before rest c error
  | exponent {op : Token} {ts before rest : List Token} {e : Expr} {c d : Nat}
      {error : ParseError} (kind : isPower op.kind = true) (left : Phrase .unary ts e c)
      (right : Fault .power before rest d error) :
      Fault .power (ts ++ op :: before) rest (max c (1 + d)) error
  | first {row : Chain} {before rest : List Token} {c : Nat} {error : ParseError}
      (operand : Fault (operandRule row) before rest c error) :
      Fault (.chain row) before rest c error
  | next {row : Chain} {n : Nat} {op : Token} {ts before rest : List Token} {e : Expr} {c d : Nat}
      {error : ParseError} (kind : row.continues op.kind = true)
      (left : Phrase (.row row n) ts e c) (right : Fault (operandRule row) before rest d error) :
      Fault (.chain row) (ts ++ op :: before) rest (max c (n + 1 + d)) error
  | expression {before rest : List Token} {c : Nat} {error : ParseError}
      (row : Fault (.chain .sums) before rest c error) :
      Fault .expression before rest (1 + c) error

def Settled (rule : Rule) (ts : List Token) : Prop :=
  (∃ us rest e c, ts = us ++ rest ∧ Phrase rule us e c ∧ Stops rule rest) ∨
    ∃ before rest c error, ts = before ++ rest ∧ Fault rule before rest c error

theorem Settled.of_phrase {rule : Rule} {us rest : List Token} {e : Expr} {c : Nat}
    (phrase : Phrase rule us e c) (stop : Stops rule rest) : Settled rule (us ++ rest) :=
  .inl ⟨us, rest, e, c, rfl, phrase, stop⟩

theorem Settled.of_fault {rule : Rule} {before rest : List Token} {c : Nat} {error : ParseError}
    (fault : Fault rule before rest c error) : Settled rule (before ++ rest) :=
  .inr ⟨before, rest, c, error, rfl, fault⟩

theorem settled_group {ts : List Token}
    (shorter : ∀ us, us.length < ts.length → Settled .expression us) : Settled .group ts := by
  cases ts with
  | nil => exact .of_fault (.unopened (by decide))
  | cons t rest =>
    by_cases kind : t.kind = .openParen
    · rcases shorter rest (Nat.lt_succ_self _) with
        ⟨us, rest, e, c, rfl, inner, stop⟩ | ⟨before, rest, c, error, rfl, fault⟩
      · by_cases closing : (facing rest).kind = .closeParen
        · cases rest with
          | nil => cases closing
          | cons close rest =>
            rw [facing_cons] at closing
            have phrase := Phrase.group kind closing inner
            simpa using Settled.of_phrase phrase (fun _ _ => rfl : Stops .group rest)
        · exact .of_fault (.unclosed kind inner stop closing)
      · exact .of_fault (.inside kind fault)
    · have missing : (facing (t :: rest)).kind ≠ .openParen := kind
      exact .of_fault (.unopened missing)

theorem hasValue_or_fault (t : Token) :
    (∃ v, HasValue t v) ∨ ∃ cause, finiteValue t.text = .error cause := by
  cases eq : finiteValue t.text with
  | error cause => exact .inr ⟨cause, rfl⟩
  | ok v =>
    refine .inl ⟨v, ?_⟩
    unfold finiteValue at eq
    split at eq
    · cases eq
    · rename_i reads
      split at eq
      · rename_i finite
        cases eq
        exact ⟨reads, finite⟩
      · cases eq

theorem settled_primary {ts : List Token}
    (groups : ∀ us, us.length ≤ ts.length → Settled .group us) : Settled .primary ts := by
  cases ts with
  | nil => exact .of_fault (.unexpected (by decide) (by decide))
  | cons t rest =>
    by_cases number : t.kind = .number
    · rcases hasValue_or_fault t with ⟨v, value⟩ | ⟨cause, noValue⟩
      · exact Settled.of_phrase (.number number value) fun _ _ => rfl
      · exact .of_fault (.number number noValue)
    by_cases paren : t.kind = .openParen
    · rcases groups (t :: rest) (Nat.le_refl _) with
        ⟨us, rest, e, c, eq, inner, stop⟩ | ⟨before, rest, c, error, eq, fault⟩
      · rw [eq]
        exact .of_phrase (.parens inner) fun _ _ => rfl
      · cases before with
        | nil =>
          cases fault with
          | unopened missing =>
            rw [List.nil_append] at eq
            rw [← eq] at missing
            exact absurd paren missing
        | cons t before =>
          cases eq
          exact .of_fault (.parens paren fault)
    cases function : Function.ofKind? t.kind with
    | some f =>
      rcases groups rest (Nat.le_succ _) with
        ⟨us, rest, e, c, rfl, inner, stop⟩ | ⟨before, rest, c, error, rfl, fault⟩
      · exact Settled.of_phrase (.call function inner) fun _ _ => rfl
      · exact .of_fault (.call function fault)
    | none =>
      cases letter : Var.ofKind? t.kind with
      | some name => exact Settled.of_phrase (.var letter) fun _ _ => rfl
      | none =>
        by_cases unknown : t.kind = .unknown
        · exact .of_fault (.unknown unknown)
        · have noOperand : beginsPrimary t.kind = false := by
            revert number paren function letter
            cases t.kind <;> simp [beginsPrimary, isVariable, isFunction, Function.ofKind?,
              Var.ofKind?]
          have fault : Fault .primary [] (t :: rest) 0 (.unexpected t) :=
            .unexpected noOperand unknown
          exact .of_fault fault

theorem settled_unary {ts : List Token}
    (primaries : ∀ us, us.length ≤ ts.length → Settled .primary us) : Settled .unary ts := by
  by_cases signed : ∃ t ∈ ts.head?, t.kind = .minus
  · obtain ⟨t, member, kind⟩ := signed
    obtain ⟨rest, rfl⟩ : ∃ rest, ts = t :: rest := List.head?_eq_some_iff.mp member
    rcases primaries rest (Nat.le_succ _) with
      ⟨us, rest, e, c, rfl, inner, stop⟩ | ⟨before, rest, c, error, rfl, fault⟩
    · exact Settled.of_phrase (.minus kind inner) fun _ _ => rfl
    · exact .of_fault (.minus kind fault)
  · rcases primaries ts (Nat.le_refl _) with
      ⟨us, rest, e, c, rfl, inner, stop⟩ | ⟨before, rest, c, error, rfl, fault⟩
    · exact .of_phrase (.plain inner) fun _ _ => rfl
    · exact .of_fault (.plain (fun t member kind => signed ⟨t, member, kind⟩) fault)

theorem settled_power {bound : Nat} (unaries : ∀ us, us.length ≤ bound → Settled .unary us)
    (ts : List Token) (le : ts.length ≤ bound) : Settled .power ts := by
  induction length : ts.length using Nat.strongRecOn generalizing ts with
  | ind n ih =>
    rcases unaries ts le with
      ⟨us, rest, e, c, rfl, left, stop⟩ | ⟨before, rest, c, error, rfl, fault⟩
    · by_cases goesOn : ∃ op ∈ rest.head?, isPower op.kind = true
      · obtain ⟨op, member, kind⟩ := goesOn
        obtain ⟨rest, rfl⟩ : ∃ tail, rest = op :: tail := List.head?_eq_some_iff.mp member
        obtain ⟨o, operator⟩ := exists_operator_of_isPower kind
        simp only [List.length_append, List.length_cons] at le length
        rcases ih rest.length (by omega) rest (by omega) rfl with
          ⟨vs, rest, f, d, rfl, right, stop⟩ | ⟨before, rest, d, error, rfl, fault⟩
        · simpa using Settled.of_phrase (.power kind operator left right) stop
        · simpa using Settled.of_fault (.exponent kind left fault)
      · refine .of_phrase (.base left) fun op member => ?_
        exact Bool.eq_false_iff.mpr fun kind => goesOn ⟨op, member, kind⟩
    · exact .of_fault (.base fault)

theorem settled_row {row : Chain} {bound : Nat}
    (operands : ∀ us, us.length ≤ bound → Settled (operandRule row) us) {n : Nat}
    {ts rest : List Token} {e : Expr} {c : Nat} (left : Phrase (.row row n) ts e c)
    (stop : Stops (operandRule row) rest) (le : rest.length ≤ bound) :
    Settled (.chain row) (ts ++ rest) := by
  induction length : rest.length using Nat.strongRecOn generalizing n ts rest e c with
  | ind k ih =>
    by_cases goesOn : ∃ op ∈ rest.head?, row.continues op.kind = true
    · obtain ⟨op, member, kind⟩ := goesOn
      obtain ⟨rest, rfl⟩ : ∃ tail, rest = op :: tail := List.head?_eq_some_iff.mp member
      obtain ⟨o, operator⟩ := exists_operator_of_continues kind
      rw [List.length_cons] at le length
      rcases operands rest (by omega) with
        ⟨vs, rest, f, d, rfl, right, stop⟩ | ⟨before, rest, d, error, rfl, fault⟩
      · rw [List.length_append] at le length
        simpa using ih rest.length (by omega) (.next kind operator left right) stop (by omega) rfl
      · simpa using Settled.of_fault (.next kind left fault)
    · refine .of_phrase (.chain left) (stops_chain_iff.mpr ⟨stop, fun op member => ?_⟩)
      exact Bool.eq_false_iff.mpr fun kind => goesOn ⟨op, member, kind⟩

theorem settled_chain {row : Chain} {bound : Nat}
    (operands : ∀ us, us.length ≤ bound → Settled (operandRule row) us) (ts : List Token)
    (le : ts.length ≤ bound) : Settled (.chain row) ts := by
  rcases operands ts le with
    ⟨us, rest, e, c, rfl, operand, stop⟩ | ⟨before, rest, c, error, rfl, fault⟩
  · rw [List.length_append] at le
    exact settled_row operands (.single operand) stop (by omega)
  · exact .of_fault (.first fault)

theorem settled_expression (ts : List Token) : Settled .expression ts := by
  induction length : ts.length using Nat.strongRecOn generalizing ts with
  | ind n ih =>
    have groups : ∀ us : List Token, us.length ≤ n → Settled .group us := fun us le =>
      settled_group fun vs shorter => ih vs.length (by omega) vs rfl
    have primaries : ∀ us : List Token, us.length ≤ n → Settled .primary us := fun us le =>
      settled_primary fun vs shorter => groups vs (by omega)
    have unaries : ∀ us : List Token, us.length ≤ n → Settled .unary us := fun us le =>
      settled_unary fun vs shorter => primaries vs (by omega)
    have products : ∀ us : List Token, us.length ≤ n → Settled (.chain .products) us :=
      settled_chain (settled_power unaries)
    have sums : Settled (.chain .sums) ts := settled_chain products ts (Nat.le_of_eq length)
    rcases sums with
      ⟨us, rest, e, c, rfl, row, stop⟩ | ⟨before, rest, c, error, rfl, fault⟩
    · exact .of_phrase (.expression row) stop
    · exact .of_fault (.expression fault)

def Rule.entry : Rule → Nat
  | .expression => 1
  | _ => 0

theorem entry_operandRule (row : Chain) : (operandRule row).entry = 0 := by
  cases row <;> rfl

/-- A fault is found before the levels outnumber the tokens read, but for the level of an
expression. -/
theorem Fault.cost_le {rule : Rule} {before rest : List Token} {c : Nat} {error : ParseError}
    (fault : Fault rule before rest c error) : c ≤ before.length + rule.entry := by
  induction fault with
  | number | unknown | unexpected | unopened => exact Nat.zero_le _
  | parens kind inner ih | plain unsigned operand ih | base operand ih => exact ih
  | call kind argument ih | minus kind operand ih | inside kind inner ih =>
    simp only [Rule.entry, List.length_cons] at ih ⊢
    omega
  | unclosed kind inner stop missing =>
    have inner_le := inner.cost_le
    simp only [Rule.entry, Rule.spare, List.length_cons] at inner_le ⊢
    omega
  | exponent kind left right ih =>
    have left_le := left.cost_le
    simp only [Rule.entry, Rule.spare, List.length_append, List.length_cons] at ih left_le ⊢
    omega
  | first operand ih =>
    rw [entry_operandRule] at ih
    exact ih
  | next kind left right ih =>
    have left_le := left.cost_le
    have fewer := left.operators_lt_length
    rw [entry_operandRule] at ih
    simp only [Rule.entry, Rule.spare, List.length_append, List.length_cons] at left_le ⊢
    omega
  | expression row ih =>
    simp only [Rule.entry] at ih ⊢
    omega

def wantedAfter (kind : TokenKind) : TokenKind :=
  if isFunction kind then .openParen else .closeParen

theorem isFunction_eq_false_of_endsPhrase {kind : TokenKind} (ends : endsPhrase kind = true) :
    isFunction kind = false := by
  revert ends
  cases kind <;> decide

theorem Fault.wanted_eq {rule : Rule} {before rest : List Token} {c : Nat} {error : ParseError}
    {wanted : TokenKind} {found : Token} (fault : Fault rule before rest c error)
    (missing : error = .missing wanted found) :
    (rule = .group ∧ before = [] ∧ wanted = .openParen) ∨
      ∃ start t, before = start ++ [t] ∧ wanted = wantedAfter t.kind := by
  induction fault with
  | number | unknown | unexpected => cases missing
  | parens kind inner ih =>
    rcases ih missing with ⟨_, empty, _⟩ | last
    · cases empty
    · exact .inr last
  | @call t f before rest c error kind argument ih =>
    rcases ih missing with ⟨_, rfl, rfl⟩ | ⟨start, last, rfl, wanted_eq⟩
    · exact .inr ⟨[], t, rfl, by simp [wantedAfter, isFunction_of_ofKind? kind]⟩
    · exact .inr ⟨t :: start, last, rfl, wanted_eq⟩
  | unopened absent =>
    cases missing
    exact .inl ⟨rfl, rfl, rfl⟩
  | @unclosed t ts rest e c kind inner stop absent =>
    cases missing
    obtain ⟨start, last, rfl, ends⟩ := inner.last
    refine .inr ⟨t :: start, last, rfl, ?_⟩
    simp [wantedAfter, isFunction_eq_false_of_endsPhrase ends]
  | @inside t before rest c error kind inner ih | @minus t before rest c error kind inner ih =>
    rcases ih missing with ⟨impossible, _⟩ | ⟨start, last, rfl, wanted_eq⟩
    · cases impossible
    · exact .inr ⟨t :: start, last, rfl, wanted_eq⟩
  | plain unsigned inner ih | base inner ih | expression inner ih =>
    rcases ih missing with ⟨impossible, _⟩ | last
    · cases impossible
    · exact .inr last
  | @first row before rest c error inner ih =>
    rcases ih missing with ⟨impossible, _⟩ | last
    · cases row <;> cases impossible
    · exact .inr last
  | @exponent op ts before rest e c d error kind left right ih =>
    rcases ih missing with ⟨impossible, _⟩ | ⟨start, last, rfl, wanted_eq⟩
    · cases impossible
    · exact .inr ⟨ts ++ op :: start, last, by simp, wanted_eq⟩
  | @next row n op ts before rest e c d error kind left right ih =>
    rcases ih missing with ⟨impossible, _⟩ | ⟨start, last, rfl, wanted_eq⟩
    · cases row <;> cases impossible
    · exact .inr ⟨ts ++ op :: start, last, by simp, wanted_eq⟩

def Explains (t : Token) : ParseError → Prop
  | .node cause => t.kind = .number ∧ finiteValue t.text = .error cause
  | .unknown text => t.kind = .unknown ∧ text = t.text
  | .unexpected found => found = t ∧ t.kind ≠ .number ∧ t.kind ≠ .unknown
  | .missing _ found => found = t
  | .tooDeep _ => False

theorem Fault.explains {rule : Rule} {before rest : List Token} {c : Nat} {error : ParseError}
    (fault : Fault rule before rest c error) : Explains (facing rest) error := by
  induction fault with
  | number kind noValue => exact ⟨kind, noValue⟩
  | unknown kind => exact ⟨kind, rfl⟩
  | unexpected noOperand known =>
    refine ⟨rfl, fun number => ?_, known⟩
    rw [number] at noOperand
    cases noOperand
  | unopened | unclosed => rfl
  | parens _ _ ih | call _ _ ih | inside _ _ ih | plain _ _ ih | minus _ _ ih | base _ ih
  | exponent _ _ _ ih | first _ ih | next _ _ _ ih | expression _ ih => exact ih

end SurfaceLang.Grammar
