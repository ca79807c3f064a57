import SurfaceLang.Proofs.Printed
import SurfaceLang.Proofs.Sentence

namespace SurfaceLang.Grammar

open SurfaceLang.Parser Lexing Text

/-- The expression `e`, from which the negated expressions at the front of the list are taken away,
and the others in the same way. -/
def mergeInto (e : Expr) : List Expr → List Expr
  | [] => [e]
  | .negate a :: es => mergeInto (.binary .sub e a) es
  | f :: es => e :: mergeInto f es

def mergeNegated : List Expr → List Expr
  | [] => []
  | e :: es => mergeInto e es

def Unnegated (e : Expr) : Prop :=
  ∀ a, e ≠ .negate a

theorem mergeInto_of_unnegated {f : Expr} (unnegated : Unnegated f) (e : Expr) (es : List Expr) :
    mergeInto e (f :: es) = e :: mergeInto f es := by
  cases f with
  | negate a => exact absurd rfl (unnegated a)
  | literal | var | binary | call => rfl

theorem length_mergeInto_le (e : Expr) (es : List Expr) :
    (mergeInto e es).length ≤ es.length + 1 := by
  fun_induction mergeInto e es with
  | case1 e => exact Nat.le_refl 1
  | case2 e a es ih => exact Nat.le_succ_of_le ih
  | case3 e f es _ ih => exact Nat.succ_le_succ ih

theorem length_mergeInto_eq_iff (e : Expr) (es : List Expr) :
    (mergeInto e es).length = es.length + 1 ↔ ∀ f ∈ es, Unnegated f := by
  fun_induction mergeInto e es with
  | case1 e => simp
  | case2 e a es ih =>
    have shorter := length_mergeInto_le (.binary .sub e a) es
    constructor
    · intro same
      rw [List.length_cons] at same
      omega
    · intro unnegated
      exact absurd rfl (unnegated _ List.mem_cons_self a)
  | case3 e f es noNegation ih =>
    have unnegated : Unnegated f := fun a eq => noNegation a eq
    rw [List.length_cons, List.length_cons, Nat.add_right_cancel_iff, ih]
    simp [unnegated]

theorem mergeInto_eq_self (e : Expr) {es : List Expr} (unnegated : ∀ f ∈ es, Unnegated f) :
    mergeInto e es = e :: es := by
  induction es generalizing e with
  | nil => rfl
  | cons f es ih =>
    obtain ⟨first, others⟩ := List.forall_mem_cons.mp unnegated
    rw [mergeInto_of_unnegated first, ih f others]

theorem length_mergeNegated_eq_iff (es : List Expr) :
    (mergeNegated es).length = es.length ↔ ∀ f ∈ es.tail, Unnegated f := by
  cases es with
  | nil => simp [mergeNegated]
  | cons e es => exact length_mergeInto_eq_iff e es

theorem mergeNegated_eq_self {es : List Expr} (unnegated : ∀ f ∈ es.tail, Unnegated f) :
    mergeNegated es = es := by
  cases es with
  | nil => rfl
  | cons e es => exact mergeInto_eq_self e unnegated

theorem unnegated_mergeInto {e : Expr} (unnegated : Unnegated e) (es : List Expr) :
    ∀ f ∈ mergeInto e es, Unnegated f := by
  fun_induction mergeInto e es with
  | case1 e => simpa using unnegated
  | case2 e a es ih => exact ih nofun
  | case3 e f es noNegation ih =>
    have others := ih fun a eq => noNegation a eq
    simpa [unnegated] using others

theorem unnegated_tail_mergeNegated (es : List Expr) :
    ∀ f ∈ (mergeNegated es).tail, Unnegated f := by
  cases es with
  | nil => simp [mergeNegated]
  | cons e es =>
    show ∀ f ∈ (mergeInto e es).tail, Unnegated f
    fun_induction mergeInto e es with
    | case1 e => simp
    | case2 e a es ih => exact ih
    | case3 e f es noNegation ih => exact unnegated_mergeInto (fun a eq => noNegation a eq) es

theorem printable_mergeInto {e : Expr} {es : List Expr} (first : Printable e)
    (others : ∀ f ∈ es, Printable f) : ∀ f ∈ mergeInto e es, Printable f := by
  fun_induction mergeInto e es with
  | case1 e => simpa using first
  | case2 e a es ih =>
    obtain ⟨negated, later⟩ := List.forall_mem_cons.mp others
    exact ih ⟨first, negated⟩ later
  | case3 e f es noNegation ih =>
    obtain ⟨next, later⟩ := List.forall_mem_cons.mp others
    exact List.forall_mem_cons.mpr ⟨first, ih next later⟩

theorem printable_mergeNegated {es : List Expr} (printable : ∀ e ∈ es, Printable e) :
    ∀ e ∈ mergeNegated es, Printable e := by
  cases es with
  | nil => exact printable
  | cons e es =>
    obtain ⟨first, others⟩ := List.forall_mem_cons.mp printable
    exact printable_mergeInto first others

theorem toList_surface_single (e : Expr) : (Surface.text ⟨[e]⟩).toList = e.text.toList := by
  simp [Surface.text]

theorem toList_surface_cons (e f : Expr) (es : List Expr) :
    (Surface.text ⟨e :: f :: es⟩).toList =
      e.text.toList ++ ' ' :: (Surface.text ⟨f :: es⟩).toList := by
  simp [Surface.text]

theorem lexed_surface {es : List Expr} (printable : ∀ e ∈ es, Printable e) :
    lexed (Surface.text ⟨es⟩).toList = (es.map printed).flatten := by
  induction es with
  | nil => exact lexed_nil
  | cons e es ih =>
    obtain ⟨first, others⟩ := List.forall_mem_cons.mp printable
    rw [List.map_cons, List.flatten_cons, ← ih others]
    cases es with
    | nil =>
      have whole := lexed_text first (show NumberEnds [] by simp [NumberEnds])
      rw [List.append_nil] at whole
      rw [toList_surface_single, whole]
      rfl
    | cons f es => rw [toList_surface_cons, lexed_text first (numberEnds_cons (by decide) _), lexed_space]

theorem isPlain_surface {es : List Expr} (printable : ∀ e ∈ es, Printable e) :
    (Surface.text ⟨es⟩).toList.all isPlain = true := by
  induction es with
  | nil => rfl
  | cons e es ih =>
    obtain ⟨first, others⟩ := List.forall_mem_cons.mp printable
    cases es with
    | nil => rw [toList_surface_single, isPlain_text first]
    | cons f es =>
      rw [toList_surface_cons, List.all_append, List.all_cons, isPlain_text first, ih others]
      rfl

theorem tokens_text {es : List Expr} (printable : ∀ e ∈ es, Printable e) :
    tokens (Surface.text ⟨es⟩) = (es.map printed).flatten := by
  rw [tokens_of_isPlain (isPlain_surface printable), lexed_surface printable]

theorem stops_printed {e : Expr} (printable : Printable e) (unnegated : Unnegated e)
    (rest : List Token) : Stops .expression (printed e ++ rest) := by
  have primary := (phrase_printed printable).2 unnegated
  exact primary.stops primary.unsigned_of_primary rest .expression

theorem exists_operand {e : Expr} (printable : Printable e) :
    ∃ us c, printed (.negate e) = minusToken :: us ∧ Phrase (.chain .products) us e c := by
  obtain ⟨phrase, primary⟩ := phrase_printed printable
  rw [printed]
  split <;> rename_i tight
  · have unnegated : Unnegated e := by
      rintro a rfl
      cases tight
    exact ⟨_, _, rfl, (Phrase.plain (primary unnegated)).toRow⟩
  · exact ⟨_, _, rfl, (Phrase.plain (.parens phrase.toExpression.inParens)).toRow⟩

/-- The invariant of reading on behind `ts`, which is a row of sums that stands for `e`: a negated
part makes the row longer, and any other part ends it. -/
theorem exists_program_mergeInto {n c : Nat} {ts : List Token} {e : Expr} {es : List Expr}
    (row : Phrase (.row .sums n) ts e c) (printable : ∀ f ∈ es, Printable f) :
    ∃ d, Program (ts ++ (es.map printed).flatten) (mergeInto e es) d := by
  induction es generalizing n c ts e with
  | nil => exact ⟨_, .cons (.expression (.chain row)) (.nil _) .nil⟩
  | cons f es ih =>
    obtain ⟨first, others⟩ := List.forall_mem_cons.mp printable
    rw [List.map_cons, List.flatten_cons]
    by_cases unnegated : Unnegated f
    · have operand := (phrase_printed first).1.toRow
      obtain ⟨d, program⟩ := ih (.single operand) others
      rw [mergeInto_of_unnegated unnegated]
      exact ⟨_, .cons (.expression (.chain row)) (stops_printed first unnegated _) program⟩
    · obtain ⟨a, rfl⟩ : ∃ a, f = .negate a := by simpa [Unnegated] using unnegated
      obtain ⟨us, d, tokens, operand⟩ := exists_operand (e := a) first
      have longer : Phrase (.row .sums (n + 1)) (ts ++ minusToken :: us) (.binary .sub e a) _ :=
        .next rfl rfl row operand
      obtain ⟨d, program⟩ := ih longer others
      rw [List.append_assoc, List.cons_append] at program
      rw [tokens, List.cons_append]
      exact ⟨d, program⟩

theorem exists_program_printed {es : List Expr} (printable : ∀ e ∈ es, Printable e) :
    ∃ c, Program (es.map printed).flatten (mergeNegated es) c := by
  cases es with
  | nil => exact ⟨0, .nil⟩
  | cons e es =>
    obtain ⟨first, others⟩ := List.forall_mem_cons.mp printable
    exact exists_program_mergeInto (.single (phrase_printed first).1.toRow) others

theorem beq_self_of_printable {e : Expr} (printable : Printable e) : (e == e) = true := by
  induction e with
  | literal value =>
    obtain ⟨s, p, finite⟩ := printable
    simpa using Binary64.beq_self_of_le (Binary64.magnitude_of_finite finite).2.le
  | var name => simp
  | negate operand ih | call function operand ih => simpa using ih printable
  | binary op left right ihLeft ihRight => simp [ihLeft printable.1, ihRight printable.2]

theorem beq_self_of_forall_printable {es : List Expr} (printable : ∀ e ∈ es, Printable e) :
    (es == es) = true := by
  induction es with
  | nil => rfl
  | cons e es ih =>
    obtain ⟨first, others⟩ := List.forall_mem_cons.mp printable
    simp [beq_self_of_printable first, ih others]

theorem exists_parse_surface {es : List Expr} (printable : ∀ e ∈ es, Printable e) :
    ∃ needed, ∀ m, needed ≤ m →
      (parseWithin m (Surface.text ⟨es⟩)).result = .ok ⟨mergeNegated es⟩ := by
  obtain ⟨c, program⟩ := exists_program_printed printable
  rw [← tokens_text printable] at program
  exact ⟨c, fun m le => result_eq_ok_iff_program.mpr ⟨c, le, program⟩⟩

/-- The text of printable parts is read as the parts with the negated ones merged, given enough
levels. So it is read as the same parts just if none but the first is negated, and its own text is
read without a further change. -/
theorem parse_text_merges_negated (es : List Expr) (printable : ∀ e ∈ es, Printable e) :
    (∃ needed, ∀ m, needed ≤ m →
      (parseWithin m (Surface.text ⟨es⟩)).result = .ok ⟨mergeNegated es⟩) ∧
    (mergeNegated es = es ↔ ∀ e ∈ es.tail, Unnegated e) ∧
    ((Surface.mk (mergeNegated es) == ⟨es⟩) = true ↔ ∀ e ∈ es.tail, Unnegated e) ∧
    (∃ needed, ∀ m, needed ≤ m →
      (parseWithin m (Surface.text ⟨mergeNegated es⟩)).result = .ok ⟨mergeNegated es⟩) := by
  refine ⟨exists_parse_surface printable, ?_, ?_, ?_⟩
  · constructor
    · intro same
      exact (length_mergeNegated_eq_iff es).mp (congrArg List.length same)
    · exact mergeNegated_eq_self
  · constructor
    · intro same
      have lists : (mergeNegated es == es) = true := same
      exact (length_mergeNegated_eq_iff es).mp (List.length_eq_of_beq lists)
    · intro unnegated
      rw [mergeNegated_eq_self unnegated]
      exact beq_self_of_forall_printable printable
  · have again := exists_parse_surface (printable_mergeNegated printable)
    rwa [mergeNegated_eq_self (unnegated_tail_mergeNegated es)] at again

def half : Float :=
  Binary64.toFloat false (1022 * 2 ^ 52)

theorem of_half : Binary64.of half = .finite false (2 ^ 52) (-53) :=
  (Binary64.of_toFloat (by decide)).trans (by decide)

theorem parse_text_half_minus_x :
    (∀ e ∈ [.literal half, .negate (.var .x), .var .y], Printable e) ∧
      ∃ needed, ∀ m, needed ≤ m →
        (parseWithin m (Surface.text ⟨[.literal half, .negate (.var .x), .var .y]⟩)).result =
          .ok ⟨[.binary .sub (.literal half) (.var .x), .var .y]⟩ := by
  have printable : ∀ e ∈ [.literal half, .negate (.var .x), .var .y], Printable e := by
    intro e member
    simp only [List.mem_cons, List.not_mem_nil, or_false] at member
    rcases member with rfl | rfl | rfl
    · exact ⟨_, _, of_half⟩
    · trivial
    · trivial
  exact ⟨printable, (parse_text_merges_negated _ printable).1⟩

theorem tokens_expr_text {e : Expr} (printable : Printable e) : tokens e.text = printed e := by
  have only : ∀ f ∈ [e], Printable f := by simpa using printable
  have whole := tokens_text only
  have text : Surface.text ⟨[e]⟩ = e.text := String.toList_inj.mp (toList_surface_single e)
  simpa [text] using whole

theorem program_printed {e : Expr} (printable : Printable e) :
    Program (printed e) [e] (1 + nesting e) := by
  have phrase := (phrase_printed printable).1.toExpression
  simpa using Program.cons phrase (.nil _) .nil

/-- The text of a printable expression is read as the expression within every limit above its
nesting, and is too deep for every other limit. -/
theorem parse_text_by_nesting (e : Expr) (printable : Printable e) (m : Nat) :
    (parseWithin m e.text).result =
      if 1 + nesting e ≤ m then .ok ⟨[e]⟩ else .error (.tooDeep m) := by
  have program := program_printed printable
  rw [← tokens_expr_text printable] at program
  exact program.result_eq m

def tower : Expr :=
  .binary .pow (.negate (.negate (.var .x))) (.call .sin (.literal half))

theorem parse_text_tower :
    Printable tower ∧ (parseWithin 4 tower.text).result = .ok ⟨[tower]⟩ ∧
      (parseWithin 3 tower.text).result = .error (.tooDeep 3) := by
  have printable : Printable tower := ⟨trivial, _, _, of_half⟩
  exact ⟨printable, parse_text_by_nesting tower printable 4,
    parse_text_by_nesting tower printable 3⟩

end SurfaceLang.Grammar
