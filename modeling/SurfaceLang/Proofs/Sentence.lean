import SurfaceLang.Proofs.Acceptance

namespace SurfaceLang.Grammar

/-- The tokens can be cut into expressions whose numbers are all finite. -/
def Sentence (ts : List Token) : Prop :=
  ∃ phrases : List (List Token), phrases.flatten = ts ∧ ∀ us ∈ phrases, IsPhrase .expression us

/-- The tokens begin a sentence. -/
def Viable (ts : List Token) : Prop :=
  ∃ more, Sentence (ts ++ more)

theorem Sentence.nil : Sentence [] :=
  ⟨[], rfl, fun _ member => by cases member⟩

theorem Sentence.cons {us ts : List Token} (phrase : IsPhrase .expression us)
    (others : Sentence ts) : Sentence (us ++ ts) := by
  obtain ⟨phrases, rfl, areExpressions⟩ := others
  refine ⟨us :: phrases, rfl, fun vs member => ?_⟩
  rcases List.mem_cons.mp member with rfl | member
  · exact phrase
  · exact areExpressions vs member

theorem Viable.of_append {ts us : List Token} (viable : Viable (ts ++ us)) : Viable ts := by
  obtain ⟨more, sentence⟩ := viable
  exact ⟨us ++ more, by rwa [← List.append_assoc]⟩

theorem Phrase.unsigned_of_primary {ts : List Token} {e : Expr} {c : Nat}
    (phrase : Phrase .primary ts e c) : Unsigned ts := by
  obtain ⟨t, rest, rfl, begins⟩ := phrase.primary_head
  intro u member minus
  cases member
  rw [minus] at begins
  cases begins

theorem Phrase.tail_of_minus {rule : Rule} {us : List Token} {e : Expr} {c : Nat}
    (phrase : Phrase rule us e c) {t : Token} {ts : List Token} (eq : us = t :: ts)
    (minus : t.kind = .minus) : IsPhrase rule ts := by
  induction phrase generalizing ts with
  | number kind value =>
    cases eq
    cases kind.symm.trans minus
  | var kind =>
    cases eq
    rw [minus] at kind
    cases kind
  | parens inner ih =>
    subst eq
    exact absurd minus ((Phrase.parens inner).unsigned_of_primary t rfl)
  | call kind argument ih =>
    cases eq
    exact absurd minus ((Phrase.call kind argument).unsigned_of_primary t rfl)
  | group left right inner ih =>
    cases eq
    cases left.symm.trans minus
  | plain operand ih =>
    subst eq
    exact absurd minus (operand.unsigned_of_primary t rfl)
  | minus kind operand ih =>
    cases eq
    exact ⟨_, _, .plain operand⟩
  | base operand ih =>
    obtain ⟨e, c, phrase⟩ := ih eq
    exact ⟨e, c, .base phrase⟩
  | single operand ih =>
    obtain ⟨e, c, phrase⟩ := ih eq
    exact ⟨e, c, .single phrase⟩
  | chain operands ih =>
    obtain ⟨e, c, phrase⟩ := ih eq
    exact ⟨e, c, .chain phrase⟩
  | expression row ih =>
    obtain ⟨e, c, phrase⟩ := ih eq
    exact ⟨e, _, .expression phrase⟩
  | power kind operator left right ihLeft ihRight =>
    obtain ⟨u, vs, rfl, _⟩ := left.head
    cases eq
    obtain ⟨e, c, phrase⟩ := ihLeft rfl
    exact ⟨_, _, .power kind operator phrase right⟩
  | next kind operator left right ihLeft ihRight =>
    obtain ⟨u, vs, rfl, _⟩ := left.head
    cases eq
    obtain ⟨e, c, phrase⟩ := ihLeft rfl
    exact ⟨_, _, .next kind operator phrase right⟩

theorem Phrase.append_row {n k : Nat} {ts us : List Token} {e f : Expr} {c d : Nat}
    (left : Phrase (.row .sums n) ts e c) (right : Phrase (.row .sums k) us f d) {t : Token}
    {vs : List Token} (eq : us = t :: vs) (minus : t.kind = .minus) :
    IsPhrase (.row .sums (n + 1 + k)) (ts ++ us) := by
  induction k generalizing us f d vs with
  | zero =>
    cases right with
    | single operand =>
      obtain ⟨g, b, phrase⟩ := operand.tail_of_minus eq minus
      subst eq
      have continues : Parser.Chain.sums.continues t.kind = true := by rw [minus]; rfl
      have operator : BinaryOp.ofKind? t.kind = some .sub := by rw [minus]; rfl
      exact ⟨_, _, .next continues operator left phrase⟩
  | succ k ih =>
    cases right with
    | next kind operator inner last =>
      obtain ⟨u, ws, rfl, _⟩ := inner.head
      cases eq
      obtain ⟨g, b, phrase⟩ := ih inner rfl
      have whole := Phrase.next kind operator phrase last
      rw [List.append_assoc] at whole
      exact ⟨_, _, whole⟩

theorem isPhrase_expression_iff {ts : List Token} :
    IsPhrase .expression ts ↔ ∃ n, IsPhrase (.row .sums n) ts := by
  constructor
  · rintro ⟨e, c, phrase⟩
    cases phrase with
    | expression chain =>
      cases chain with
      | chain operands => exact ⟨_, _, _, operands⟩
  · rintro ⟨n, e, c, operands⟩
    exact ⟨e, _, .expression (.chain operands)⟩

theorem IsPhrase.append {ts us : List Token} (left : IsPhrase .expression ts)
    (right : IsPhrase .expression us) (signed : ¬ Unsigned us) :
    IsPhrase .expression (ts ++ us) := by
  obtain ⟨t, member, minus⟩ : ∃ t ∈ us.head?, t.kind = .minus := by
    simpa [Unsigned] using signed
  obtain ⟨vs, eq⟩ := List.head?_eq_some_iff.mp member
  obtain ⟨n, e, c, leftRow⟩ := isPhrase_expression_iff.mp left
  obtain ⟨k, f, d, rightRow⟩ := isPhrase_expression_iff.mp right
  exact isPhrase_expression_iff.mpr ⟨_, leftRow.append_row rightRow eq minus⟩

end SurfaceLang.Grammar
