import SurfaceLang.Proofs.FirstFault
import SurfaceLang.Proofs.Printed

namespace SurfaceLang.Grammar

open SurfaceLang.Parser Lexing

def HasUnsignedValue (t : Token) : Prop :=
  ∃ v, readFloat t.text = .ok v ∧
    ((∃ significand power, Binary64.of v = .finite false significand power) ∨
      Binary64.of v = .infinite false)

theorem hasUnsignedValue_of_mem_tokens {input : String} {t : Token} (member : t ∈ tokens input)
    (number : t.kind = .number) : HasUnsignedValue t := by
  obtain ⟨bits, le, reads⟩ := exists_value_of_mem_tokens member number
  have magnitude := Binary64.ofMagnitudeBits_of_le le false
  rw [← Binary64.of_toFloat le] at magnitude
  exact ⟨_, reads, magnitude⟩

theorem mem_of_facing_number {before rest : List Token}
    (number : (facing rest).kind = .number) : facing rest ∈ before ++ rest := by
  cases rest with
  | nil => cases number
  | cons t rest => exact List.mem_append_right before List.mem_cons_self

theorem exists_fault_of_node_error {m : Nat} {input : String} {cause : NodeError}
    (failed : (parseWithin m input).result = .error (.node cause)) :
    ∃ t ∈ tokens input, t.kind = .number ∧ finiteValue t.text = .error cause := by
  rcases settled_program (tokens input) with
    ⟨es, c, program⟩ | ⟨before, rest, c, error, eq, fault⟩
  · rw [program.result_eq] at failed
    split at failed <;> cases failed
  · rw [fault.result_eq eq] at failed
    split at failed
    · cases failed
      obtain ⟨number, noValue⟩ := fault.explains
      exact ⟨facing rest, eq ▸ mem_of_facing_number number, number, noValue⟩
    · cases failed

theorem exists_outOfRange {m : Nat} {input : String} {cause : NodeError}
    (failed : (parseWithin m input).result = .error (.node cause)) :
    ∃ text, cause = .outOfRange text := by
  obtain ⟨t, member, number, noValue⟩ := exists_fault_of_node_error failed
  obtain ⟨v, reads, _⟩ := hasUnsignedValue_of_mem_tokens member number
  exact ⟨t.text, (cause_of_finiteValue reads noValue).1⟩

/-- A node that could not be built is always a literal that is too large, and the error names it:
every number token of a text reads as a number. -/
theorem node_error_names_infinite_literal (input : String) :
    (∀ m cause, (parseWithin m input).result = .error (.node cause) →
      ∃ t ∈ tokens input, t.kind = .number ∧ cause = .outOfRange t.text ∧
        cause.details = "literal '" ++ t.text ++ "' is out of range" ∧
        ∃ v, readFloat t.text = .ok v ∧ Binary64.of v = .infinite false) ∧
    ∀ t ∈ tokens input, t.kind = .number →
      ∃ v, readFloat t.text = .ok v ∧ Binary64.of v ≠ .nan := by
  constructor
  · intro m cause failed
    obtain ⟨t, member, number, noValue⟩ := exists_fault_of_node_error failed
    obtain ⟨v, reads, value⟩ := hasUnsignedValue_of_mem_tokens member number
    obtain ⟨rfl, infinite⟩ := cause_of_finiteValue reads noValue
    refine ⟨t, member, number, rfl, rfl, v, reads, value.resolve_left ?_⟩
    rintro ⟨s, p, finite⟩
    rw [finite] at infinite
    cases infinite
  · intro t member number
    obtain ⟨v, reads, value⟩ := hasUnsignedValue_of_mem_tokens member number
    refine ⟨v, reads, ?_⟩
    rcases value with ⟨s, p, finite⟩ | infinite
    · rw [finite]
      exact nofun
    · rw [infinite]
      exact nofun

theorem tokens_of_areDigits {cs : List Char} (nonempty : cs ≠ []) (digits : AreDigits cs) :
    tokens (String.ofList cs) = [⟨.number, String.ofList cs⟩] := by
  have plain : (String.ofList cs).toList.all isPlain = true := by
    rw [String.toList_ofList, List.all_eq_true]
    exact fun c member => isPlain_of_isDigit (digits c member)
  have scanned := lexed_numeral (.whole nonempty digits) (show NumberEnds [] from nofun)
  rw [List.append_nil, lexed_nil] at scanned
  rw [tokens_of_isPlain plain, String.toList_ofList, scanned]

def nines : List Char :=
  List.replicate 309 '9'

theorem areDigits_nines : AreDigits nines :=
  areDigits_replicate 309 rfl

theorem readFloat_nines :
    readFloat (String.ofList nines) = .ok (Binary64.toFloat false Binary64.infinityBits) := by
  have nonempty : nines ≠ [] := nofun
  have value : numeralValue nines [] = ⟨10 ^ 309 - 1, 0⟩ := by decide +kernel
  have bits : Decimal.bits ⟨10 ^ 309 - 1, 0⟩ = Binary64.infinityBits := by decide +kernel
  rw [(IsNumeral.whole nonempty areDigits_nines).readFloat_eq
    (decimal?_of_whole nonempty areDigits_nines), value, bits]

theorem finiteValue_of_infinite {text : String}
    (reads : readFloat text = .ok (Binary64.toFloat false Binary64.infinityBits)) :
    finiteValue text = .error (.outOfRange text) := by
  have infinite : (Binary64.of (Binary64.toFloat false Binary64.infinityBits)).isFinite = false := by
    rw [Binary64.of_toFloat (Nat.le_refl _)]
    decide
  simp only [finiteValue, reads, infinite, Bool.false_eq_true, if_false]

theorem result_nines {m : Nat} (positive : 1 ≤ m) :
    (parseWithin m (String.ofList nines)).result =
      .error (.node (.outOfRange (String.ofList nines))) := by
  have read := tokens_of_areDigits (show nines ≠ [] from nofun) areDigits_nines
  have number : Fault .primary [] [⟨.number, String.ofList nines⟩] 0
      (.node (.outOfRange (String.ofList nines))) :=
    .number rfl (finiteValue_of_infinite readFloat_nines)
  have fault : Fault .expression [] [⟨.number, String.ofList nines⟩] 1
      (.node (.outOfRange (String.ofList nines))) :=
    .expression (.first (.first (.base (.plain (by simp) number))))
  rw [(ProgramFault.here (List.cons_ne_nil _ _) fault).result_eq read m, if_pos positive]

theorem node_error_of_nines :
    ((parseWithin 1 (String.ofList nines)).result =
        .error (.node (.outOfRange (String.ofList nines))) ∧
      ⟨.number, String.ofList nines⟩ ∈ tokens (String.ofList nines)) ∧
    (∃ t ∈ tokens (String.ofList nines), t.kind = .number ∧
      NodeError.outOfRange (String.ofList nines) = .outOfRange t.text ∧
      (NodeError.outOfRange (String.ofList nines)).details =
        "literal '" ++ t.text ++ "' is out of range" ∧
      ∃ v, readFloat t.text = .ok v ∧ Binary64.of v = .infinite false) ∧
    ∃ v, readFloat (String.ofList nines) = .ok v ∧ Binary64.of v ≠ .nan := by
  have failed := result_nines (Nat.le_refl 1)
  have member : ⟨.number, String.ofList nines⟩ ∈ tokens (String.ofList nines) := by
    rw [tokens_of_areDigits (show nines ≠ [] from nofun) areDigits_nines]
    exact List.mem_cons_self
  obtain ⟨named, valued⟩ := node_error_names_infinite_literal (String.ofList nines)
  exact ⟨⟨failed, member⟩, named 1 _ failed, valued ⟨.number, _⟩ member rfl⟩

theorem HasValue.finite {t : Token} {v : Float} (value : HasValue t v)
    (unsigned : HasUnsignedValue t) :
    ∃ significand power, Binary64.of v = .finite false significand power := by
  obtain ⟨reads, isFinite⟩ := value
  obtain ⟨w, found, magnitude⟩ := unsigned
  cases reads.symm.trans found
  refine magnitude.resolve_right fun infinite => ?_
  rw [infinite] at isFinite
  cases isFinite

theorem Phrase.printable {rule : Rule} {ts : List Token} {e : Expr} {c : Nat}
    (phrase : Phrase rule ts e c)
    (unsigned : ∀ t ∈ ts, t.kind = .number → HasUnsignedValue t) : Printable e := by
  induction phrase with
  | number kind value => exact value.finite (unsigned _ List.mem_cons_self kind)
  | var kind => exact trivial
  | parens _ ih | plain _ ih | base _ ih | single _ ih | chain _ ih | expression _ ih =>
    exact ih unsigned
  | call _ _ ih | minus _ _ ih => exact ih (List.forall_mem_cons.mp unsigned).2
  | group _ _ _ ih =>
    exact ih (List.forall_mem_append.mp (List.forall_mem_cons.mp unsigned).2).1
  | power _ _ _ _ ihLeft ihRight | next _ _ _ _ ihLeft ihRight =>
    obtain ⟨left, right⟩ := List.forall_mem_append.mp unsigned
    exact ⟨ihLeft left, ihRight (List.forall_mem_cons.mp right).2⟩

theorem Program.printable {ts : List Token} {es : List Expr} {c : Nat} (program : Program ts es c)
    (unsigned : ∀ t ∈ ts, t.kind = .number → HasUnsignedValue t) : ∀ e ∈ es, Printable e := by
  induction program with
  | nil => exact nofun
  | cons first stop others ih =>
    obtain ⟨here, behind⟩ := List.forall_mem_append.mp unsigned
    exact List.forall_mem_cons.mpr ⟨first.printable here, ih behind⟩

theorem printable_of_parsed {m : Nat} {input : String} {s : Surface}
    (parsed : (parseWithin m input).result = .ok s) : ∀ e ∈ s.parts, Printable e := by
  obtain ⟨c, _, program⟩ := result_eq_ok_iff_program.mp parsed
  exact program.printable fun t => hasUnsignedValue_of_mem_tokens

theorem eq_of_beq_of_printable {e f : Expr} (left : Printable e) (right : Printable f)
    (same : (e == f) = true) : e = f := by
  induction e generalizing f with
  | literal v =>
    obtain ⟨w, rfl, numbers⟩ := Expr.literal_beq_iff.mp same
    obtain ⟨_, _, vFinite⟩ := left
    obtain ⟨_, _, wFinite⟩ := right
    have unsigned {u : Float} {s : Nat} {p : Int} (finite : Binary64.of u = .finite false s p) :
        u.toBits.toNat < 2 ^ 63 :=
      Nat.lt_trans (Binary64.magnitude_of_finite finite).2 (by decide)
    rw [Binary64.eq_of_beq_of_unsigned (unsigned vFinite) (unsigned wFinite) numbers]
  | var name => exact Expr.var_beq_iff.mp same
  | negate a ih =>
    obtain ⟨b, rfl, operand⟩ := Expr.negate_beq_iff.mp same
    have inner : a = b := ih left right operand
    rw [inner]
  | binary op a b ihLeft ihRight =>
    obtain ⟨c, d, rfl, first, second⟩ := Expr.binary_beq_iff.mp same
    rw [ihLeft left.1 right.1 first, ihRight left.2 right.2 second]
  | call function a ih =>
    obtain ⟨b, rfl, argument⟩ := Expr.call_beq_iff.mp same
    have inner : a = b := ih left right argument
    rw [inner]

/-- Without a bound on the literals it is false, since the two zeros compare as equal. -/
example : (Expr.literal 0.0 == .literal (-0.0)) = true ∧ Expr.literal 0.0 ≠ .literal (-0.0) := by
  decide +kernel

theorem eq_of_beq_of_forall_printable {es fs : List Expr} (left : ∀ e ∈ es, Printable e)
    (right : ∀ f ∈ fs, Printable f) (same : (es == fs) = true) : es = fs := by
  induction es generalizing fs with
  | nil =>
    cases fs with
    | nil => rfl
    | cons f fs => cases same
  | cons e es ih =>
    cases fs with
    | nil => cases same
    | cons f fs =>
      obtain ⟨eFirst, others⟩ := List.forall_mem_cons.mp left
      obtain ⟨fFirst, others'⟩ := List.forall_mem_cons.mp right
      rw [List.cons_beq_cons, Bool.and_eq_true] at same
      rw [eq_of_beq_of_printable eFirst fFirst same.1, ih others others' same.2]

/-- Surfaces that have been read are the same if they compare as equal, to the last bit of their
literals. So their texts, their outlines and their values are the same. -/
theorem eq_of_beq_of_parsed {m k : Nat} {u v : String} {s t : Surface}
    (left : (parseWithin m u).result = .ok s) (right : (parseWithin k v).result = .ok t)
    (same : (s == t) = true) :
    s = t ∧ s.text = t.text ∧ s.outline = t.outline ∧ ∀ x y, s.eval x y = t.eval x y := by
  have parts : s.parts = t.parts :=
    eq_of_beq_of_forall_printable (printable_of_parsed left) (printable_of_parsed right) same
  obtain rfl : s = t := congrArg Surface.mk parts
  exact ⟨rfl, rfl, rfl, fun _ _ => rfl⟩

theorem eq_of_beq_of_half_x :
    ∃ s t, ((parseWithin 3 "0.50*X").result = .ok s ∧
        (parseWithin 9 "0.5 * x").result = .ok t ∧ (s == t) = true) ∧
      s = t ∧ s.text = t.text ∧ s.outline = t.outline ∧ ∀ x y, s.eval x y = t.eval x y := by
  let half : Surface := ⟨[.binary .mul (.literal 0.5) (.var .x)]⟩
  have left : (parseWithin 3 "0.50*X").result = .ok half := by decide +kernel
  have right : (parseWithin 9 "0.5 * x").result = .ok half := by decide +kernel
  have same : (half == half) = true := by decide +kernel
  exact ⟨half, half, ⟨left, right, same⟩, eq_of_beq_of_parsed left right same⟩

end SurfaceLang.Grammar
