import SurfaceLang.Proofs.Cut

namespace SurfaceLang.Lexing

open Text Grammar

/-- Whether a character of the second class, directly behind one of the first, can go on with a
token. -/
def clings : CharClass → CharClass → Bool
  | .digit, .digit | .digit, .decimalPoint | .decimalPoint, .digit | .letter, .letter => true
  | _, _ => false

theorem isBlank_eq_false_of_clings {kind : CharClass} {c : Char}
    (goesOn : clings kind (.of c) = true) : isBlank c = false := by
  apply isBlank_eq_false_of_ne
  intro blank
  rw [blank] at goesOn
  cases kind <;> cases goesOn

theorem Ends.of_rest {kind : CharClass} {l : Char} {rest other : List Char} (ends : Ends kind rest)
    (goesOn : clings (.of l) kind = true)
    (direct : ∀ c ∈ other.head?, clings (.of l) (.of c) = true → c ∈ rest.head?) :
    Ends kind other := by
  intro c member isKind
  rw [← isKind] at goesOn
  exact ends c (direct c member goesOn) isKind

theorem exists_last {kind : CharClass} {cs : List Char} (nonempty : cs ≠ [])
    (inside : ∀ c ∈ cs, CharClass.of c = kind) : ∃ l ∈ cs.getLast?, CharClass.of l = kind :=
  ⟨_, List.getLast?_eq_some_getLast nonempty, inside _ (List.getLast_mem nonempty)⟩

theorem exists_last_digit {digits : List Char} (nonempty : digits ≠ [])
    (areDigits : AreDigits digits) : ∃ l ∈ digits.getLast?, CharClass.of l = .digit :=
  exists_last nonempty fun c member => of_eq_digit_iff.mpr (areDigits c member)

theorem exists_last_decimal (digits : List Char) {places : List Char} (fraction : AreDigits places) :
    ∃ l ∈ (digits ++ '.' :: places).getLast?, clings (.of l) .digit = true := by
  rw [List.getLast?_append_cons]
  cases places with
  | nil => exact ⟨'.', rfl, rfl⟩
  | cons d places =>
    obtain ⟨l, last, digit⟩ := exists_last_digit (List.cons_ne_nil d places) fraction
    exact ⟨l, last, by rw [digit]; rfl⟩

/-- A token stays one before other characters, unless one of them goes on with it: directly behind
it, or behind blanks for an operator that can be doubled. -/
theorem Lexeme.of_rest {kind : TokenKind} {range rest other : List Char}
    (lexeme : Lexeme kind range rest)
    (direct : ∀ l ∈ range.getLast?, ∀ c ∈ other.head?, clings (.of l) (.of c) = true →
      c ∈ rest.head?)
    (next : ∀ c pair, (c, kind, pair) ∈ pairings → (ink other).head? = some c →
      (ink rest).head? = some c) : Lexeme kind range other := by
  cases lexeme with
  | whole nonempty areDigits noDigit noPoint =>
    obtain ⟨l, last, digit⟩ := exists_last_digit nonempty areDigits
    exact .whole nonempty areDigits (noDigit.of_rest (by rw [digit]; rfl) (direct l last))
      (noPoint.of_rest (by rw [digit]; rfl) (direct l last))
  | @decimal digits _ _ nonempty areDigits fraction ends =>
    obtain ⟨l, last, goesOn⟩ := exists_last_decimal digits fraction
    exact .decimal nonempty areDigits fraction (ends.of_rest goesOn (direct l last))
  | single isSingle => exact .single isSingle
  | function f ends =>
    obtain ⟨d, later, name⟩ := exists_name_eq_cons f
    obtain ⟨l, last, letter⟩ := exists_last (by rw [name]; nofun) (areLetters_name f)
    exact .function f (ends.of_rest (by rw [letter]; rfl) (direct l last))
  | word areLetters noVar noFunction ends =>
    obtain ⟨l, last, letter⟩ := exists_last (List.cons_ne_nil _ _) areLetters
    exact .word areLetters noVar noFunction (ends.of_rest (by rw [letter]; rfl) (direct l last))
  | twice pairs blank => exact .twice pairs blank
  | once pairs apart => exact .once pairs fun same => apart (next _ _ pairs same)
  | stray other noSymbol => exact .stray other noSymbol

theorem Lexeme.before_paren {kind : TokenKind} {range rest other : List Char}
    (lexeme : Lexeme kind range rest)
    (head : ∀ c ∈ other.head?, c ∈ rest.head? ∨ c ∈ ['(', ')'])
    (inkHead : ∀ c ∈ (ink other).head?, c ∈ (ink rest).head? ∨ c ∈ ['(', ')']) :
    Lexeme kind range other := by
  refine lexeme.of_rest (fun l _ c inOther goesOn => ?_) (fun c pair pairs inOther => ?_)
  · refine (head c inOther).resolve_right fun paren => ?_
    have isOther : CharClass.of c = .other := by
      rw [List.mem_cons, List.mem_singleton] at paren
      rcases paren with rfl | rfl <;> decide
    rw [isOther] at goesOn
    cases hl : CharClass.of l <;> rw [hl] at goesOn <;> cases goesOn
  · refine (inkHead c inOther).resolve_right fun paren => ?_
    rcases pairing_cases pairs with ⟨rfl, _⟩ | ⟨rfl, _⟩ <;> revert paren <;> decide

def isUnbroken (kind : TokenKind) : Bool :=
  kind == .number || Parser.isFunction kind || kind == .unknown

theorem Lexeme.range_cases {kind : TokenKind} {range rest : List Char}
    (lexeme : Lexeme kind range rest) :
    (∃ first later, range = first :: later ∧ (∀ c ∈ range, isBlank c = false) ∧
      (later = [] ∨ isUnbroken kind = true)) ∨
    ∃ c alone gap, range = c :: (gap ++ [c]) ∧ isBlank c = false ∧ AreBlank gap ∧
      (c, alone, kind) ∈ pairings := by
  cases lexeme with
  | whole nonempty areDigits noDigit noPoint =>
    obtain ⟨d, later, rfl⟩ := List.exists_cons_of_ne_nil nonempty
    exact .inl ⟨d, later, rfl, ink_eq_self_iff.mp (ink_of_areDigits areDigits), .inr rfl⟩
  | decimal nonempty areDigits fraction ends =>
    obtain ⟨d, later, rfl⟩ := List.exists_cons_of_ne_nil nonempty
    exact .inl ⟨d, _, rfl, ink_eq_self_iff.mp (ink_decimal areDigits fraction), .inr rfl⟩
  | single isSingle =>
    obtain ⟨noBlank, _⟩ := scan_single isSingle rest
    exact .inl ⟨_, [], rfl, by simp [noBlank], .inl rfl⟩
  | function f ends =>
    obtain ⟨d, later, name⟩ := exists_name_eq_cons f
    refine .inl ⟨d, later, name, fun c member => ?_, .inr (by cases f <;> rfl)⟩
    exact isBlank_eq_false_of_letter (areLetters_name f c member)
  | word areLetters noVar noFunction ends =>
    have noBlank := fun c member => isBlank_eq_false_of_letter (areLetters c member)
    exact .inl ⟨_, _, rfl, noBlank, .inr rfl⟩
  | twice pairs blank =>
    obtain ⟨noBlank, _⟩ := scan_pairing pairs rest
    exact .inr ⟨_, _, _, rfl, noBlank, blank, pairs⟩
  | once pairs apart =>
    obtain ⟨noBlank, _⟩ := scan_pairing pairs rest
    exact .inl ⟨_, [], rfl, by simp [noBlank], .inl rfl⟩
  | stray other noSymbol =>
    have noBlank := isBlank_eq_false_of_other other
    exact .inl ⟨_, [], rfl, by simp [noBlank], .inl rfl⟩

end SurfaceLang.Lexing
