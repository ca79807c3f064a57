import SurfaceLang.Expr.Printer
import SurfaceLang.Proofs.Lexemes

namespace SurfaceLang.Grammar

open SurfaceLang.Parser Lexing Text

/-- All literals are finite numbers without a sign, as those that are read from text. -/
def Printable : Expr → Prop
  | .literal value => ∃ significand power, Binary64.of value = .finite false significand power
  | .var _ => True
  | .negate operand => Printable operand
  | .binary _ left right => Printable left ∧ Printable right
  | .call _ argument => Printable argument

def minusToken : Token :=
  ⟨.minus, "-"⟩

def varToken : Var → Token
  | .x => xToken
  | .y => ⟨.varY, "y"⟩

def operatorToken : BinaryOp → Token
  | .add => ⟨.plus, "+"⟩
  | .sub => minusToken
  | .mul => ⟨.times, "*"⟩
  | .div => ⟨.divide, "/"⟩
  | .pow => ⟨.power, "**"⟩
  | .root => ⟨.root, "//"⟩

def inParens (ts : List Token) : List Token :=
  openToken :: (ts ++ [closeToken])

def printed : Expr → List Token
  | .literal value => [⟨.number, floatText value⟩]
  | .var name => [varToken name]
  | .negate operand =>
    minusToken :: if operand.isTight then printed operand else inParens (printed operand)
  | .binary op left right => inParens (printed left ++ operatorToken op :: printed right)
  | .call function argument => functionToken function :: inParens (printed argument)

/-- The levels of nesting that the text of an expression needs besides one for itself. -/
def nesting : Expr → Nat
  | .literal _ | .var _ => 0
  | .negate operand => if operand.isTight then nesting operand else 1 + nesting operand
  | .binary _ left right => 1 + max (nesting left) (1 + nesting right)
  | .call _ argument => 1 + nesting argument

theorem toList_text_negate (e : Expr) :
    (Expr.negate e).text.toList =
      '-' :: if e.isTight then e.text.toList else '(' :: (e.text.toList ++ [')']) := by
  rw [Expr.text]
  split <;> simp

theorem toList_text_binary (op : BinaryOp) (l r : Expr) :
    (Expr.binary op l r).text.toList =
      '(' :: (l.text.toList ++ ' ' :: (op.symbol.toList ++ ' ' :: (r.text.toList ++ [')']))) := by
  simp [Expr.text]

theorem toList_text_call (f : Function) (e : Expr) :
    (Expr.call f e).text.toList = f.name.toList ++ '(' :: (e.text.toList ++ [')']) := by
  simp [Expr.text]

def BeginsText (c : Char) : Prop :=
  isBlank c = false ∧ c ≠ '*' ∧ c ≠ '/'

theorem exists_head_text {e : Expr} (printable : Printable e) :
    ∃ c cs, e.text.toList = c :: cs ∧ BeginsText c := by
  cases e with
  | literal value =>
    obtain ⟨s, p, finite⟩ := printable
    obtain ⟨d, rest, eq, digit⟩ := (floatText_spec finite).1.head
    refine ⟨d, rest, eq, isBlank_eq_false_of_isDigit digit, ?_, ?_⟩
    · rintro rfl
      cases digit
    · rintro rfl
      cases digit
  | var name => cases name <;> exact ⟨_, _, rfl, by decide, by decide, by decide⟩
  | negate operand =>
    exact ⟨_, _, toList_text_negate operand, by decide, by decide, by decide⟩
  | binary op left right =>
    exact ⟨_, _, toList_text_binary op left right, by decide, by decide, by decide⟩
  | call function argument =>
    have text := toList_text_call function argument
    cases function <;> exact ⟨_, _, text, by decide, by decide, by decide⟩

theorem lexed_operator (op : BinaryOp) {c : Char} (begins : BeginsText c) (cs : List Char) :
    lexed (op.symbol.toList ++ ' ' :: c :: cs) = operatorToken op :: lexed (c :: cs) := by
  obtain ⟨ink, noStar, noSlash⟩ := begins
  have skip : (' ' :: c :: cs).dropWhile isBlank = c :: cs := by
    rw [List.dropWhile_cons_of_pos (by decide), List.dropWhile_cons_of_neg (by simp [ink])]
  rw [← lexed_space (c :: cs)]
  cases op with
  | add => exact lexed_single .plus '+' (by decide) _
  | sub => exact lexed_single .minus '-' (by decide) _
  | mul => exact lexed_once '*' .times .power (by decide) (by simpa [skip] using noStar)
  | div => exact lexed_once '/' .divide .root (by decide) (by simpa [skip] using noSlash)
  | pow => exact lexed_twice '*' .times .power (by decide) _
  | root => exact lexed_twice '/' .divide .root (by decide) _

theorem numberEnds_cons {c : Char} (apart : c.isDigit = false ∧ c ≠ '.') (cs : List Char) :
    NumberEnds (c :: cs) := by
  rintro d ⟨⟩
  exact apart

theorem lexed_inParens {cs : List Char} {ts : List Token}
    (inside : ∀ rest, NumberEnds rest → lexed (cs ++ rest) = ts ++ lexed rest) (rest : List Char) :
    lexed ('(' :: (cs ++ [')']) ++ rest) = inParens ts ++ lexed rest := by
  have read := inside (')' :: rest) (numberEnds_cons (c := ')') (by decide) rest)
  rw [List.cons_append, List.append_assoc, lexed_single .openParen '(' (by decide),
    List.singleton_append, read, lexed_single .closeParen ')' (by decide), inParens,
    List.cons_append, List.append_assoc]
  rfl

theorem lexed_text {e : Expr} (printable : Printable e) {rest : List Char}
    (ends : NumberEnds rest) : lexed (e.text.toList ++ rest) = printed e ++ lexed rest := by
  induction e generalizing rest with
  | literal value =>
    obtain ⟨s, p, finite⟩ := printable
    have number := lexed_numeral (floatText_spec finite).1 ends
    rwa [String.ofList_toList] at number
  | var name =>
    cases name with
    | x => exact lexed_single .varX 'x' (by decide) rest
    | y => exact lexed_single .varY 'y' (by decide) rest
  | negate operand ih =>
    have minus := lexed_single .minus '-' (by decide)
    rw [toList_text_negate, printed]
    by_cases tight : operand.isTight = true
    · rw [if_pos tight, if_pos tight, List.cons_append, minus, ih printable ends]
      rfl
    · have inside := lexed_inParens (fun rest ends => ih printable ends) rest
      rw [if_neg tight, if_neg tight, List.cons_append, minus, inside]
      rfl
  | binary op left right ihLeft ihRight =>
    obtain ⟨leftPrintable, rightPrintable⟩ := printable
    obtain ⟨c, cs, eq, begins⟩ := exists_head_text rightPrintable
    have inside : ∀ rest, NumberEnds rest →
        lexed (left.text.toList ++ ' ' :: (op.symbol.toList ++ ' ' :: right.text.toList) ++ rest) =
          printed left ++ operatorToken op :: printed right ++ lexed rest := by
      intro rest ends
      have operator := lexed_operator op begins (cs ++ rest)
      have read := ihRight rightPrintable ends
      rw [eq, List.cons_append] at read
      have first := ihLeft leftPrintable
        (numberEnds_cons (c := ' ') (by decide) (op.symbol.toList ++ ' ' :: right.text.toList ++ rest))
      rw [List.append_assoc, List.cons_append, first, lexed_space, List.append_assoc,
        List.cons_append, eq, List.cons_append, operator, read]
      simp
    have whole := lexed_inParens inside rest
    rw [toList_text_binary, printed, ← whole]
    simp
  | call function argument ih =>
    have noLetter : Ends .letter ('(' :: (argument.text.toList ++ [')']) ++ rest) :=
      ends_cons.mpr (by decide)
    have inside := lexed_inParens (fun rest ends => ih printable ends) rest
    rw [toList_text_call, List.append_assoc, lexed_function function noLetter, inside]
    rfl

theorem isPlain_of_isNumeral {cs : List Char} (numeral : IsNumeral cs) :
    cs.all isPlain = true := by
  have plain {ds : List Char} (digits : AreDigits ds) : ds.all isPlain = true :=
    List.all_eq_true.mpr fun c member => isPlain_of_isDigit (digits c member)
  cases numeral with
  | whole nonempty digits => exact plain digits
  | point nonempty digits fraction =>
    rw [List.all_append, List.all_cons, plain digits, plain fraction]
    rfl

theorem isPlain_text {e : Expr} (printable : Printable e) : e.text.toList.all isPlain = true := by
  induction e with
  | literal value =>
    obtain ⟨s, p, finite⟩ := printable
    exact isPlain_of_isNumeral (floatText_spec finite).1
  | var name => cases name <;> decide
  | negate operand ih =>
    have inside := ih printable
    rw [toList_text_negate]
    split
    · rw [List.all_cons, inside]
      rfl
    · rw [List.all_cons, List.all_cons, List.all_append, inside]
      rfl
  | binary op left right ihLeft ihRight =>
    have left := ihLeft printable.1
    have right := ihRight printable.2
    have symbol : op.symbol.toList.all isPlain = true := by cases op <;> decide
    simp only [toList_text_binary, List.all_cons, List.all_append, left, right, symbol]
    rfl
  | call function argument ih =>
    have inside := ih printable
    have name : function.name.toList.all isPlain = true := by cases function <;> decide
    simp only [toList_text_call, List.all_cons, List.all_append, inside, name]
    rfl

theorem Phrase.toRow {ts : List Token} {e : Expr} {c : Nat} (phrase : Phrase .unary ts e c) :
    Phrase (.chain .products) ts e c :=
  .chain (.single (.base phrase))

theorem Phrase.toExpression {ts : List Token} {e : Expr} {c : Nat}
    (phrase : Phrase .unary ts e c) : Phrase .expression ts e (1 + c) :=
  .expression (.chain (.single phrase.toRow))

theorem Phrase.inParens {ts : List Token} {e : Expr} {c : Nat}
    (phrase : Phrase .expression ts e c) : Phrase .group (inParens ts) e c :=
  .group rfl rfl phrase

theorem Phrase.binary (op : BinaryOp) {ts us : List Token} {e f : Expr} {c d : Nat}
    (left : Phrase .unary ts e c) (right : Phrase .unary us f d) :
    Phrase (.chain .sums) (ts ++ operatorToken op :: us) (.binary op e f) (max c (1 + d)) := by
  cases op with
  | add => exact .chain (.next rfl rfl (.single left.toRow) right.toRow)
  | sub => exact .chain (.next rfl rfl (.single left.toRow) right.toRow)
  | mul => exact .chain (.single (.chain (.next rfl rfl (.single (.base left)) (.base right))))
  | div => exact .chain (.single (.chain (.next rfl rfl (.single (.base left)) (.base right))))
  | pow => exact .chain (.single (.chain (.single (.power rfl rfl left (.base right)))))
  | root => exact .chain (.single (.chain (.single (.power rfl rfl left (.base right)))))

theorem phrase_printed {e : Expr} (printable : Printable e) :
    Phrase .unary (printed e) e (nesting e) ∧
      ((∀ a, e ≠ .negate a) → Phrase .primary (printed e) e (nesting e)) := by
  induction e with
  | literal value =>
    obtain ⟨s, p, finite⟩ := printable
    have value : HasValue ⟨.number, floatText value⟩ value :=
      ⟨(floatText_spec finite).2, by rw [finite]; rfl⟩
    exact ⟨.plain (.number rfl value), fun _ => .number rfl value⟩
  | var name =>
    have phrase : Phrase .primary [varToken name] (.var name) 0 := by
      cases name <;> exact .var rfl
    exact ⟨.plain phrase, fun _ => phrase⟩
  | negate operand ih =>
    obtain ⟨phrase, primary⟩ := ih printable
    refine ⟨?_, fun noMinus => absurd rfl (noMinus operand)⟩
    -- A tight operand is a primary; any other one is put in parentheses.
    rw [printed, nesting]
    split <;> rename_i tight
    · refine .minus rfl (primary ?_)
      rintro a rfl
      cases tight
    · exact .minus rfl (.parens phrase.toExpression.inParens)
  | binary op left right ihLeft ihRight =>
    have row := Phrase.binary op (ihLeft printable.1).1 (ihRight printable.2).1
    have phrase := Phrase.parens (Phrase.expression row).inParens
    exact ⟨.plain phrase, fun _ => phrase⟩
  | call function argument ih =>
    have inside := (ih printable).1.toExpression.inParens
    have kind : Function.ofKind? (functionToken function).kind = some function := by
      cases function <;> rfl
    exact ⟨.plain (.call kind inside), fun _ => .call kind inside⟩

end SurfaceLang.Grammar
