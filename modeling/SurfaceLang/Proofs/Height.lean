import Mathlib.Tactic.Ring
import SurfaceLang.Proofs.Printed
import SurfaceLang.Proofs.Acceptance

namespace SurfaceLang.Grammar

open SurfaceLang.Parser Lexing

/-- The number of nodes on the longest way from the root to a leaf. -/
def height : Expr → Nat
  | .literal _ | .var _ => 1
  | .negate operand => 1 + height operand
  | .binary _ left right => 1 + max (height left) (height right)
  | .call _ argument => 1 + height argument

theorem height_pos (e : Expr) : 1 ≤ height e := by
  cases e <;> simp [height]

/-- No phrase that needs `c` levels is taller. -/
def heightBound : Rule → Nat → Nat
  | .primary, c => max 1 ((c + 1) ^ 2 - 1)
  | .unary, c => max 2 ((c + 1) ^ 2)
  | .power, c => (c + 1) ^ 2 + 1
  | .row .products n, c => (c + 1) ^ 2 + 1 + n
  | .chain .products, c => (c + 1) ^ 2 + 1 + c
  | .row .sums n, c => (c + 1) ^ 2 + 1 + c + n
  | .chain .sums, c => (c + 1) ^ 2 + 1 + c + c
  | .expression, c | .group, c => (c + 1) ^ 2 - 2

theorem square_mono {c d : Nat} (le : c ≤ d) : (c + 1) ^ 2 ≤ (d + 1) ^ 2 :=
  Nat.pow_le_pow_left (Nat.succ_le_succ le) 2

theorem square_pos (c : Nat) : 1 ≤ (c + 1) ^ 2 :=
  Nat.pow_pos (Nat.succ_pos c)

theorem square_succ (c : Nat) : (1 + c + 1) ^ 2 = (c + 1) ^ 2 + 2 * c + 3 := by
  ring

theorem heightBound_next (row : Chain) (n c d : Nat) :
    1 + max (heightBound (.row row n) c) (heightBound (operandRule row) d) ≤
      heightBound (.row row (n + 1)) (max c (n + 1 + d)) := by
  have left := square_mono (Nat.le_max_left c (n + 1 + d))
  have right := square_mono (show d ≤ max c (n + 1 + d) by omega)
  cases row <;> simp only [heightBound, operandRule] <;> omega

theorem heightBound_power (c d : Nat) :
    1 + max (heightBound .unary c) (heightBound .power d) ≤
      heightBound .power (max c (1 + d)) := by
  have left := square_mono (Nat.le_max_left c (1 + d))
  have right := square_mono (Nat.le_max_right c (1 + d))
  have step := square_succ d
  have pos := square_pos d
  simp only [heightBound]
  omega

theorem Phrase.height_le {rule : Rule} {ts : List Token} {e : Expr} {c : Nat}
    (phrase : Phrase rule ts e c) : height e ≤ heightBound rule c := by
  induction phrase with
  | number | var => exact Nat.le_max_left 1 _
  | @parens ts e c inner ih =>
    simp only [heightBound] at ih ⊢
    omega
  | @call t f ts e c kind argument ih =>
    -- The argument has a node, so its bound is not the zero of a cut-off difference.
    have pos := height_pos e
    simp only [heightBound, height] at ih ⊢
    omega
  | group left right inner ih => exact ih
  | @plain ts e c operand ih =>
    simp only [heightBound] at ih ⊢
    omega
  | @minus t ts e c kind operand ih =>
    have pos := square_pos c
    simp only [heightBound, height] at ih ⊢
    omega
  | @base ts e c operand ih =>
    have pos := square_pos c
    simp only [heightBound] at ih ⊢
    omega
  | @power op o ts us e f c d kind operator left right ihLeft ihRight =>
    have step := heightBound_power c d
    simp only [height]
    omega
  | @single row ts e c operand ih => cases row <;> exact ih
  | @next row n op o ts us e f c d kind operator left right ihLeft ihRight =>
    have step := heightBound_next row n c d
    simp only [height]
    omega
  | @chain row n ts e c operands ih =>
    -- A row has no more operators than levels, which bounds what they add.
    have few := operands.operators_le
    cases row <;> simp only [heightBound] at ih ⊢ <;> omega
  | @expression ts e c row ih =>
    have step := square_succ c
    simp only [heightBound] at ih ⊢
    omega

theorem Program.height_le {ts : List Token} {es : List Expr} {c : Nat}
    (program : Program ts es c) : ∀ e ∈ es, height e ≤ (c + 1) ^ 2 - 2 := by
  induction program with
  | nil => exact nofun
  | @cons ts rest e es c d first stop others ih =>
    have left := square_mono (Nat.le_max_left c d)
    have right := square_mono (Nat.le_max_right c d)
    intro f member
    rcases List.mem_cons.mp member with rfl | later
    · have bound := first.height_le
      simp only [heightBound] at bound
      omega
    · have bound := ih f later
      omega

theorem height_le_of_parsed {m : Nat} {input : String} {es : List Expr}
    (parsed : (parseWithin m input).result = .ok ⟨es⟩) :
    ∀ e ∈ es, height e ≤ (m + 1) ^ 2 - 2 := by
  obtain ⟨c, le, program⟩ := result_eq_ok_iff_program.mp parsed
  have wider := square_mono le
  intro e member
  have bound := program.height_le e member
  omega

def Spells (text : List Char) (ts : List Token) : Prop :=
  text.all isPlain = true ∧ ∀ rest, lexed (text ++ rest) = ts ++ lexed rest

theorem Spells.append {left right : List Char} {ts us : List Token} (first : Spells left ts)
    (second : Spells right us) : Spells (left ++ right) (ts ++ us) := by
  constructor
  · rw [List.all_append, first.1, second.1]
    rfl
  · intro rest
    rw [List.append_assoc, first.2, second.2, List.append_assoc]

theorem spells_call : Spells ['-', 's', 'i', 'n', '('] [minusToken, functionToken .sin, openToken] := by
  refine ⟨by decide, fun rest => ?_⟩
  have noLetter : Ends .letter ('(' :: rest) := ends_cons.mpr (by decide)
  have name := lexed_function .sin noLetter
  rw [lexed_single .openParen '(' (by decide)] at name
  exact (lexed_single .minus '-' (by decide) _).trans (congrArg (minusToken :: ·) name)

theorem spells_power : Spells [')', '*', '*', 'x'] [closeToken, operatorToken .pow, xToken] := by
  refine ⟨by decide, fun rest => ?_⟩
  show lexed (')' :: '*' :: '*' :: 'x' :: rest) = _
  rw [lexed_single .closeParen ')' (by decide), lexed_twice '*' .times .power (by decide),
    lexed_single .varX 'x' (by decide)]
  rfl

def repeated (op : BinaryOp) : Nat → List Token
  | 0 => []
  | n + 1 => repeated op n ++ [operatorToken op, xToken]

theorem exists_spells_repeated {op : BinaryOp} {sign : Char}
    (once : Spells [sign, 'x'] [operatorToken op, xToken]) (n : Nat) :
    ∃ text, Spells text (repeated op n) := by
  induction n with
  | zero => exact ⟨[], rfl, fun rest => rfl⟩
  | succ n ih =>
    obtain ⟨text, spells⟩ := ih
    exact ⟨text ++ [sign, 'x'], spells.append once⟩

theorem exists_row_repeated (row : Chain) (op : BinaryOp) {ts : List Token} {e : Expr} {c : Nat}
    (kind : row.continues (operatorToken op).kind = true)
    (operator : BinaryOp.ofKind? (operatorToken op).kind = some op)
    (first : Phrase (operandRule row) ts e c) (x : Phrase (operandRule row) [xToken] (.var .x) 0)
    {n : Nat} (few : n ≤ c) :
    ∃ f, Phrase (.row row n) (ts ++ repeated op n) f c ∧ height f = height e + n := by
  induction n with
  | zero =>
    rw [repeated, List.append_nil]
    exact ⟨e, .single first, rfl⟩
  | succ n ih =>
    obtain ⟨f, phrase, tall⟩ := ih (Nat.le_of_succ_le few)
    have longer := phrase.next kind operator x
    rw [Nat.max_eq_left few, List.append_assoc] at longer
    refine ⟨_, longer, ?_⟩
    have pos := height_pos e
    simp only [height]
    omega

theorem spells_add : Spells ['+', 'x'] [operatorToken .add, xToken] :=
  ⟨by decide, fun rest => (lexed_single .plus '+' (by decide) _).trans
    (congrArg _ (lexed_single .varX 'x' (by decide) rest))⟩

theorem spells_mul : Spells ['*', 'x'] [operatorToken .mul, xToken] := by
  refine ⟨by decide, fun rest => ?_⟩
  have skip : ('x' :: rest).dropWhile Text.isBlank = 'x' :: rest :=
    List.dropWhile_cons_of_neg (by decide)
  have apart : ∀ c ∈ (('x' :: rest).dropWhile Text.isBlank).head?, c ≠ '*' := by
    rw [skip]
    intro c member
    cases member
    decide
  exact (lexed_once '*' .times .power (by decide) apart).trans
    (congrArg _ (lexed_single .varX 'x' (by decide) rest))

theorem phrase_x : Phrase .unary [xToken] (.var .x) 0 :=
  .plain (.var rfl)

/-- A minus sign and a function in front of the argument, a power behind it, and as many operators
of either row as there are levels: none of these needs a level besides that of the argument. -/
theorem exists_taller {ts : List Token} {e : Expr} {c : Nat} (argument : Phrase .expression ts e c)
    (pos : 1 ≤ c) :
    ∃ f, Phrase .expression (minusToken :: functionToken .sin :: inParens ts ++
        operatorToken .pow :: [xToken] ++ repeated .mul c ++ repeated .add c) f (1 + c) ∧
      height f = height e + 3 + 2 * c := by
  have negated : Phrase .unary (minusToken :: functionToken .sin :: inParens ts)
      (.negate (.call .sin e)) c := .minus rfl (.call rfl argument.inParens)
  have power : Phrase .power (minusToken :: functionToken .sin :: inParens ts ++
      operatorToken .pow :: [xToken]) (.binary .pow (.negate (.call .sin e)) (.var .x))
      (max c (1 + 0)) := .power rfl rfl negated (.base phrase_x)
  rw [Nat.max_eq_left pos] at power
  obtain ⟨f, products, productsTall⟩ :=
    exists_row_repeated .products .mul rfl rfl power (.base phrase_x) le_rfl
  obtain ⟨g, sums, sumsTall⟩ :=
    exists_row_repeated .sums .add rfl rfl (.chain products) phrase_x.toRow le_rfl
  refine ⟨g, .expression (.chain sums), ?_⟩
  have below := height_pos e
  simp only [height] at productsTall
  omega

theorem exists_tallest (n : Nat) :
    ∃ text ts e, Spells text ts ∧ Phrase .expression ts e (n + 1) ∧
      height e + 2 = (n + 1 + 1) ^ 2 := by
  induction n with
  | zero =>
    refine ⟨['-', 'x'], [minusToken, xToken], _, ⟨by decide, fun rest => ?_⟩,
      (Phrase.minus rfl (.var rfl)).toExpression, rfl⟩
    exact (lexed_single .minus '-' (by decide) _).trans
      (congrArg _ (lexed_single .varX 'x' (by decide) rest))
  | succ n ih =>
    obtain ⟨text, ts, e, spells, phrase, tall⟩ := ih
    obtain ⟨f, taller, more⟩ := exists_taller phrase (Nat.succ_pos n)
    obtain ⟨products, spellsMul⟩ := exists_spells_repeated spells_mul (n + 1)
    obtain ⟨sums, spellsAdd⟩ := exists_spells_repeated spells_add (n + 1)
    have whole := (((spells_call.append spells).append spells_power).append spellsMul).append
      spellsAdd
    rw [Nat.add_comm 1] at taller
    refine ⟨_, _, f, whole, ?_, ?_⟩
    · simpa [inParens] using taller
    · have step := square_succ (n + 1)
      rw [Nat.add_comm 1] at step
      omega

/-- A limit `m` lets expressions through that are `m * m + 2 * m - 1` nodes tall, and no taller
ones. -/
theorem height_bound_is_sharp (m : Nat) (pos : 1 ≤ m) :
    (∀ input es, (parseWithin m input).result = .ok ⟨es⟩ →
      ∀ e ∈ es, height e ≤ m * m + 2 * m - 1) ∧
    ∃ input es, (parseWithin m input).result = .ok ⟨es⟩ ∧
      ∃ e ∈ es, height e = m * m + 2 * m - 1 := by
  have square : (m + 1) ^ 2 = m * m + 2 * m + 1 := by ring
  constructor
  · intro input es parsed e member
    have bound := height_le_of_parsed parsed e member
    omega
  · obtain ⟨n, rfl⟩ : ∃ n, m = n + 1 := ⟨m - 1, by omega⟩
    obtain ⟨text, ts, e, ⟨plain, lexes⟩, phrase, tall⟩ := exists_tallest n
    have read : tokens (String.ofList text) = ts := by
      have whole := lexes []
      rw [List.append_nil, lexed_nil, List.append_nil] at whole
      rw [tokens_of_isPlain (by rwa [String.toList_ofList]), String.toList_ofList, whole]
    have program : Program (ts ++ []) [e] (max (n + 1) 0) := .cons phrase (.nil _) .nil
    rw [List.append_nil, ← read] at program
    refine ⟨String.ofList text, [e], ?_, e, List.mem_singleton_self e, by omega⟩
    exact result_eq_ok_iff_program.mpr ⟨_, by omega, program⟩

theorem height_bound_is_sharp_two :
    1 ≤ 2 ∧ ∃ input es, (parseWithin 2 input).result = .ok ⟨es⟩ ∧ ∃ e ∈ es, height e = 7 :=
  ⟨by decide, (height_bound_is_sharp 2 (by decide)).2⟩

end SurfaceLang.Grammar
