import SurfaceLang.Proofs.Substitution

namespace SurfaceLang

open Text Grammar Lexing

namespace Lexing

/-- Tokens of this kind can be made longer behind blanks. -/
def CanPair (kind : TokenKind) : Prop :=
  ∃ c pair, (c, kind, pair) ∈ pairings

theorem Lexeme.exists_ink {kind : TokenKind} {range rest : List Char}
    (lexeme : Lexeme kind range rest) : ∃ d later, ink range = d :: later := by
  obtain ⟨d, later, rfl, noBlank, _⟩ := lexeme.scan_eq
  exact ⟨d, ink later, ink_cons noBlank later⟩

theorem Cut.exists_ink {cs : List Char} {t : Token} {ts : List Token} (cut : Cut cs (t :: ts)) :
    ∃ d later, ink cs = d :: later := by
  cases cut with
  | @cons gap range rest _ _ blank lexeme text others =>
    obtain ⟨d, later, inked⟩ := lexeme.exists_ink
    exact ⟨d, later ++ ink rest, by
      rw [ink_append, ink_append, ink_eq_nil_iff.mpr blank, inked]; rfl⟩

theorem Cut.append {cs ds : List Char} {ts us : List Token} (cut : Cut cs ts)
    (closed : ∀ t ∈ ts.getLast?, ¬ CanPair t.kind) (gap : ∀ c ∈ ds.head?, isBlank c = true)
    (others : Cut ds us) : Cut (cs ++ ds) (ts ++ us) := by
  induction cut with
  | nil blank => exact others.behind_gap blank
  | @cons front range rest t ts blank lexeme text behind ih =>
    have whole : Lexeme t.kind range (rest ++ ds) := by
      refine lexeme.of_rest (fun l _ c head goesOn => ?_) (fun c pair pairs head => ?_)
      · cases rest with
        | nil => cases (gap c head).symm.trans (isBlank_eq_false_of_clings goesOn)
        | cons d rest => exact head
      · cases ts with
        | nil => exact absurd ⟨c, pair, pairs⟩ (closed t rfl)
        | cons u ts =>
          obtain ⟨d, later, inked⟩ := behind.exists_ink
          rw [ink_append, inked] at head
          rw [inked]
          exact head
    have later : ∀ u ∈ ts.getLast?, ¬ CanPair u.kind := by
      cases ts with
      | nil => exact nofun
      | cons u ts => rwa [List.getLast?_cons_cons] at closed
    rw [List.append_assoc, List.append_assoc]
    exact .cons blank whole text (ih later)

end Lexing

namespace Grammar

theorem not_canPair_of_endsPhrase {kind : TokenKind} (ends : endsPhrase kind = true) :
    ¬ CanPair kind := by
  rintro ⟨c, pair, pairs⟩
  rcases pairing_cases pairs with ⟨_, rfl, _⟩ | ⟨_, rfl, _⟩ <;> cases ends

theorem Program.last {ts : List Token} {es : List Expr} {c : Nat} (program : Program ts es c) :
    ∀ t ∈ ts.getLast?, endsPhrase t.kind = true := by
  induction program with
  | nil => exact nofun
  | @cons ts rest e es c d first stop others ih =>
    intro t member
    cases rest with
    | nil =>
      obtain ⟨before, last, rfl, ends⟩ := first.last
      rw [List.append_nil, List.getLast?_concat] at member
      cases member
      exact ends
    | cons u rest => exact ih t (by rwa [List.getLast?_append_cons] at member)

theorem tokens_append_blank {u w v : String} {es : List Expr} {c : Nat}
    (program : Program (tokens u) es c) (nonempty : w ≠ "")
    (blank : ∀ c ∈ w.toList, isBlank c = true) :
    tokens (u ++ w ++ v) = tokens u ++ tokens v := by
  have cut := cut_tokens u
  have closed := fun t member => not_canPair_of_endsPhrase (program.last t member)
  have gap : ∀ c ∈ (w.toList ++ lowercase v).head?, isBlank c = true := by
    cases letters : w.toList with
    | nil => exact absurd (String.toList_eq_nil_iff.mp letters) nonempty
    | cons b others =>
      intro c head
      cases head
      exact blank b (letters ▸ List.mem_cons_self)
  apply Cut.tokens_eq
  rw [lowercase_append_blank (noSigma_of_cut cut program.isMeaningful) nonempty blank]
  exact cut.append closed gap ((cut_tokens v).behind_gap blank)

theorem Stops.append {rule : Rule} {ts us : List Token} (left : Stops rule ts)
    (right : Stops rule us) : Stops rule (ts ++ us) := by
  cases ts with
  | nil => exact right
  | cons t ts => exact left

theorem Program.append {ts us : List Token} {es fs : List Expr} {c d : Nat}
    (program : Program ts es c) (apart : es = [] ∨ Stops .expression us)
    (others : Program us fs d) : Program (ts ++ us) (es ++ fs) (max c d) := by
  induction program with
  | nil => rwa [Nat.zero_max]
  | cons first stop _ ih =>
    have behind := apart.resolve_left (List.cons_ne_nil _ _)
    rw [List.append_assoc, Nat.max_assoc]
    exact .cons first (stop.append behind) (ih (.inr behind))

theorem Program.append_fault {ts before rest : List Token} {es : List Expr} {c d : Nat}
    {error : ParseError} (program : Program ts es c)
    (apart : es = [] ∨ Stops .expression (before ++ rest))
    (fault : ProgramFault before rest d error) :
    ProgramFault (ts ++ before) rest (max c d) error := by
  induction program with
  | nil => rwa [Nat.zero_max]
  | cons first stop _ ih =>
    have behind := apart.resolve_left (List.cons_ne_nil _ _)
    have last := stop.append behind
    rw [← List.append_assoc] at last
    rw [List.append_assoc, Nat.max_assoc]
    exact .later first last (ih (.inr behind))

theorem stops_expression_iff {ts : List Token} :
    Stops .expression ts ↔
      ∀ t ∈ ts.head?, t.kind ∉ [.plus, .minus, .times, .divide, .power, .root] := by
  have operators (kind : TokenKind) : Rule.expression.goesOn kind = false ↔
      kind ∉ [.plus, .minus, .times, .divide, .power, .root] := by
    cases kind <;> decide
  exact forall₂_congr fun t _ => operators t.kind

/-- Behind a text that is read as the expressions `es`, and blanks, a text that does not begin with
an operator is read as it is by itself: its expressions follow `es`, and its error is the error of
the whole. -/
theorem parse_behind_blank (m : Nat) (u w v : String) (es : List Expr)
    (parsed : (parseWithin m u).result = .ok ⟨es⟩) (nonempty : w ≠ "")
    (blank : ∀ c ∈ w.toList, isBlank c = true)
    (apart : es = [] ∨ ∀ t ∈ (tokens v).head?,
      t.kind ∉ [.plus, .minus, .times, .divide, .power, .root]) :
    (parseWithin m (u ++ w ++ v)).result =
      match (parseWithin m v).result with
      | .ok surface => .ok ⟨es ++ surface.parts⟩
      | .error error => .error error := by
  obtain ⟨c, fits, program⟩ := result_eq_ok_iff_program.mp parsed
  have read : tokens (u ++ w ++ v) = tokens u ++ tokens v :=
    tokens_append_blank program nonempty blank
  rw [← stops_expression_iff] at apart
  rcases settled_program (tokens v) with ⟨fs, d, others⟩ | ⟨before, rest, d, error, eq, fault⟩
  · have whole := program.append apart others
    rw [← read] at whole
    rw [whole.result_eq, others.result_eq]
    simp only [Nat.max_le, fits, true_and]
    split <;> rfl
  · rw [eq] at apart read
    have whole := program.append_fault apart fault
    rw [← List.append_assoc] at read
    rw [whole.result_eq read, fault.result_eq eq]
    simp only [Nat.max_le, fits, true_and]

theorem parse_sigmas_behind_blank :
    ((parseWithin 1 "X").result = .ok ⟨[.var .x]⟩ ∧ "\t" ≠ "" ∧
      (∀ c ∈ "\t".toList, isBlank c = true) ∧
      ∀ t ∈ (tokens "ΣΣ").head?, t.kind ∉ [.plus, .minus, .times, .divide, .power, .root]) ∧
    (parseWithin 1 ("X" ++ "\t" ++ "ΣΣ")).result = .error (.unknown "σς") := by
  have parsed : (parseWithin 1 "X").result = .ok ⟨[.var .x]⟩ := by decide +kernel
  have blank : ∀ c ∈ "\t".toList, isBlank c = true := List.forall_mem_singleton.mpr (by decide)
  have read : tokens "ΣΣ" = [⟨.unknown, "σς"⟩] := by decide +kernel
  have apart : ∀ t ∈ (tokens "ΣΣ").head?,
      t.kind ∉ [.plus, .minus, .times, .divide, .power, .root] := by
    intro t head
    rw [read] at head
    cases head
    decide
  -- By itself the second letter is the last one of a word, whatever stands in front of the blank.
  have alone : (parseWithin 1 "ΣΣ").result = .error (.unknown "σς") := by decide +kernel
  have whole := parse_behind_blank 1 "X" "\t" "ΣΣ" [.var .x] parsed (by decide) blank (.inr apart)
  rw [alone] at whole
  exact ⟨⟨parsed, by decide, blank, apart⟩, whole⟩

end Grammar

end SurfaceLang
