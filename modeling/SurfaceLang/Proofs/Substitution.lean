import SurfaceLang.Proofs.Neighbors
import SurfaceLang.Proofs.Replacement

namespace SurfaceLang

open Text Grammar Lexing

def Var.letter : Var → Char
  | .x => 'x'
  | .y => 'y'

def Var.capital : Var → Char
  | .x => 'X'
  | .y => 'Y'

/-- The characters in the place of `c` when `filling` stands in parentheses in the place of some
letters. -/
def charsFor (letters filling : List Char) (c : Char) : List Char :=
  if c ∈ letters then '(' :: (filling ++ [')']) else [c]

/-- The text `s` with the text `part` in parentheses in the place of every letter that names the
variable. -/
def substitute (name : Var) (part s : String) : String :=
  String.ofList (s.toList.flatMap (charsFor [name.letter, name.capital] part.toList))

theorem flatMap_charsFor_of_absent {letters cs : List Char} (filling : List Char)
    (absent : ∀ c ∈ cs, c ∉ letters) : cs.flatMap (charsFor letters filling) = cs := by
  induction cs with
  | nil => rfl
  | cons c cs ih =>
    obtain ⟨first, later⟩ := List.forall_mem_cons.mp absent
    rw [List.flatMap_cons, ih later, charsFor, if_neg first, List.singleton_append]

namespace Text

theorem letter_notMem_smallAlone {name : Var} {c : Char}
    (other : c ∉ [name.letter, name.capital]) : name.letter ∉ smallAlone c := by
  by_cases sigma : c = 'Σ'
  · subst sigma
    cases name <;> decide
  by_cases dotted : c = 'İ'
  · subst dotted
    cases name <;> decide
  rw [smallAlone_of_ne sigma dotted, List.mem_singleton]
  intro isSmall
  have code := eq_or_capital_of_small isSmall.symm (by cases name <;> decide)
    (by cases name <;> decide)
  apply other
  rw [List.mem_cons, List.mem_singleton]
  refine code.imp_right fun capital => Char.toNat_inj.mp ?_
  cases name <;> exact Nat.add_right_cancel capital

theorem flatMap_smallAlone_charsFor (name : Var) (filling : List Char) (c : Char) :
    (charsFor [name.letter, name.capital] filling c).flatMap smallAlone =
      (smallAlone c).flatMap (charsFor [name.letter] (filling.flatMap smallAlone)) := by
  by_cases names : c ∈ [name.letter, name.capital]
  · have alone : smallAlone c = [name.letter] := by
      rw [List.mem_cons, List.mem_singleton] at names
      cases name <;> rcases names with rfl | rfl <;> decide
    rw [alone, List.flatMap_singleton, charsFor, charsFor, if_pos names,
      if_pos (List.mem_singleton_self _), List.flatMap_cons, List.flatMap_append]
    rfl
  · rw [charsFor, if_neg names, List.flatMap_singleton, flatMap_charsFor_of_absent]
    intro d member same
    exact letter_notMem_smallAlone names (List.mem_singleton.mp same ▸ member)

theorem lowercase_substitute {name : Var} {s part : String} (sNoSigma : 'Σ' ∉ s.toList)
    (partNoSigma : 'Σ' ∉ part.toList) :
    lowercase (substitute name part s) =
      (lowercase s).flatMap (charsFor [name.letter] (lowercase part)) := by
  have none : 'Σ' ∉ s.toList.flatMap (charsFor [name.letter, name.capital] part.toList) := by
    rw [List.mem_flatMap]
    rintro ⟨c, member, inside⟩
    unfold charsFor at inside
    split at inside
    · simp [partNoSigma] at inside
    · exact sNoSigma (List.mem_singleton.mp inside ▸ member)
  unfold lowercase substitute
  rw [String.toList_ofList, lowercaseAfter_of_noSigma none, lowercaseAfter_of_noSigma sNoSigma,
    lowercaseAfter_of_noSigma partNoSigma, List.flatMap_assoc, List.flatMap_assoc]
  exact congrArg (s.toList.flatMap ·) (funext (flatMap_smallAlone_charsFor name part.toList))

end Text

namespace Lexing

def marks : List Char :=
  ['+', '-', '*', '/', '(', ')', '.', 's', 'i', 'n', 'c', 'o', 't', 'a']

theorem single_cases {kind : TokenKind} {c : Char} (isSingle : (kind, c) ∈ singles) :
    (∃ name, Var.ofKind? kind = some name ∧ c = name.letter) ∨
      Var.ofKind? kind = none ∧ c ∈ marks := by
  simp only [singles, List.mem_cons, Prod.mk.injEq, List.not_mem_nil, or_false] at isSingle
  rcases isSingle with ⟨rfl, rfl⟩ | ⟨rfl, rfl⟩ | ⟨rfl, rfl⟩ | ⟨rfl, rfl⟩ | ⟨rfl, rfl⟩ | ⟨rfl, rfl⟩ |
    ⟨rfl, rfl⟩
  · exact .inl ⟨.x, rfl, rfl⟩
  · exact .inl ⟨.y, rfl, rfl⟩
  all_goals exact .inr ⟨rfl, by decide⟩

theorem mem_marks_of_pairing {c : Char} {alone pair : TokenKind}
    (pairs : (c, alone, pair) ∈ pairings) : c ∈ marks := by
  rcases pairing_cases pairs with ⟨rfl, _⟩ | ⟨rfl, _⟩ <;> decide

theorem Lexeme.mem_cases {kind : TokenKind} {range rest : List Char}
    (lexeme : Lexeme kind range rest) (known : kind ≠ .unknown) {c : Char} (member : c ∈ range) :
    isBlank c = true ∨ c.isDigit = true ∨ c ∈ marks ∨
      ∃ name, Var.ofKind? kind = some name ∧ c = name.letter := by
  cases lexeme with
  | whole nonempty areDigits noDigit noPoint => exact .inr (.inl (areDigits c member))
  | decimal nonempty areDigits fraction ends =>
    rw [List.mem_append, List.mem_cons] at member
    rcases member with whole | rfl | place
    · exact .inr (.inl (areDigits c whole))
    · exact .inr (.inr (.inl (by decide)))
    · exact .inr (.inl (fraction c place))
  | single isSingle =>
    rw [List.mem_singleton] at member
    subst member
    rcases single_cases isSingle with named | ⟨_, mark⟩
    · exact .inr (.inr (.inr named))
    · exact .inr (.inr (.inl mark))
  | function f ends =>
    have inside : f.name.toList.all (· ∈ marks) = true := by cases f <;> decide
    exact .inr (.inr (.inl (by simpa using List.all_eq_true.mp inside c member)))
  | word => exact absurd rfl known
  | twice pairs blank =>
    rw [List.mem_cons, List.mem_append, List.mem_singleton] at member
    rcases member with rfl | inside | rfl
    · exact .inr (.inr (.inl (mem_marks_of_pairing pairs)))
    · exact .inl (blank c inside)
    · exact .inr (.inr (.inl (mem_marks_of_pairing pairs)))
  | once pairs apart =>
    rw [List.mem_singleton] at member
    exact .inr (.inr (.inl (member ▸ mem_marks_of_pairing pairs)))
  | stray => exact absurd rfl known

theorem isBlank_letter (name : Var) : isBlank name.letter = false := by
  cases name <;> decide

theorem letter_notMem_of_areBlank (name : Var) {gap : List Char} (blank : AreBlank gap) :
    name.letter ∉ gap := by
  intro member
  cases (isBlank_letter name).symm.trans (blank _ member)

theorem flatMap_charsFor_of_areBlank {name : Var} {gap filling : List Char} (blank : AreBlank gap) :
    gap.flatMap (charsFor [name.letter] filling) = gap := by
  apply flatMap_charsFor_of_absent
  intro c member named
  rw [List.mem_singleton] at named
  exact letter_notMem_of_areBlank name blank (named ▸ member)

theorem Lexeme.letter_notMem {kind : TokenKind} {range rest : List Char}
    (lexeme : Lexeme kind range rest) (known : kind ≠ .unknown) {name : Var}
    (other : Var.ofKind? kind ≠ some name) : name.letter ∉ range := by
  intro member
  rcases lexeme.mem_cases known member with blank | digit | mark | ⟨found, isFound, same⟩
  · cases (isBlank_letter name).symm.trans blank
  · revert digit
    cases name <;> decide
  · revert mark
    cases name <;> decide
  · cases name <;> cases found <;> first | exact other isFound | cases same

theorem Lexeme.range_of_var {kind : TokenKind} {range rest : List Char} {name : Var}
    (lexeme : Lexeme kind range rest) (isVar : Var.ofKind? kind = some name) :
    range = [name.letter] := by
  cases lexeme with
  | single isSingle =>
    rcases single_cases isSingle with ⟨found, isFound, rfl⟩ | ⟨noVar, _⟩
    · cases isFound.symm.trans isVar
      rfl
    · cases noVar.symm.trans isVar
  | whole | decimal | word | stray => cases isVar
  | function f => cases f <;> cases isVar
  | twice pairs | once pairs =>
    rcases pairing_cases pairs with ⟨rfl, rfl, rfl⟩ | ⟨rfl, rfl, rfl⟩ <;> cases isVar

theorem Lexeme.isPlain {kind : TokenKind} {range rest : List Char} (lexeme : Lexeme kind range rest)
    (known : kind ≠ .unknown) {c : Char} (member : c ∈ range) :
    isBlank c = true ∨ isPlain c = true := by
  rcases lexeme.mem_cases known member with blank | digit | mark | ⟨name, _, rfl⟩
  · exact .inl blank
  · exact .inr (isPlain_of_isDigit digit)
  · have plain : marks.all Lexing.isPlain = true := by decide
    exact .inr (List.all_eq_true.mp plain c mark)
  · exact .inr (by cases name <;> decide)

theorem Cut.isPlain {cs : List Char} {ts : List Token} (cut : Cut cs ts)
    (known : ∀ t ∈ ts, isMeaningful t.kind = true) {c : Char} (member : c ∈ cs) :
    isBlank c = true ∨ isPlain c = true := by
  induction cut with
  | nil blank => exact .inl (blank c member)
  | cons blank lexeme text others ih =>
    obtain ⟨first, later⟩ := List.forall_mem_cons.mp known
    rw [List.mem_append, List.mem_append] at member
    rcases member with inGap | inRange | inRest
    · exact .inl (blank c inGap)
    · exact lexeme.isPlain (ne_unknown_of_isMeaningful first) inRange
    · exact ih later inRest

theorem noSigma_of_cut {s : String} {ts : List Token} (cut : Cut (lowercase s) ts)
    (known : ∀ t ∈ ts, isMeaningful t.kind = true) : 'Σ' ∉ s.toList := by
  intro sigma
  have foreign {c : Char} (noBlank : isBlank c = false) (noPlain : Lexing.isPlain c = false) :
      c ∉ lowercase s := by
    intro member
    rcases cut.isPlain known member with blank | plain
    · cases noBlank.symm.trans blank
    · cases noPlain.symm.trans plain
  rcases sigma_of_mem sigma false with member | member
  · exact foreign (by decide) (by decide) member
  · exact foreign (by decide) (by decide) member

theorem head?_append_close {c : Char} {cs rest : List Char}
    (head : c ∈ (cs ++ ')' :: rest).head?) : c ∈ cs.head? ∨ c ∈ ['(', ')'] := by
  cases cs with
  | nil =>
    cases head
    exact .inr (by decide)
  | cons d cs => exact .inl head

theorem head?_flatMap_charsFor {letters filling cs : List Char} {c : Char}
    (head : c ∈ (cs.flatMap (charsFor letters filling)).head?) :
    c ∈ cs.head? ∨ c ∈ ['(', ')'] := by
  cases cs with
  | nil => exact .inl head
  | cons d cs =>
    rw [List.flatMap_cons, charsFor] at head
    split at head
    · cases head
      exact .inr (by decide)
    · exact .inl head

theorem ink_charsFor (name : Var) (filling : List Char) (c : Char) :
    ink (charsFor [name.letter] filling c) =
      (ink [c]).flatMap (charsFor [name.letter] (ink filling)) := by
  by_cases named : c ∈ [name.letter]
  · have noBlank : isBlank c = false := List.mem_singleton.mp named ▸ isBlank_letter name
    have alone : ink [c] = [c] := ink_cons noBlank []
    rw [charsFor, if_pos named, ink_cons (by decide), ink_append, alone, List.flatMap_singleton,
      charsFor, if_pos named]
    rfl
  · rw [charsFor, if_neg named, flatMap_charsFor_of_absent]
    intro d member
    rwa [List.mem_singleton.mp (List.mem_of_mem_filter member)]

theorem ink_flatMap_charsFor (name : Var) (filling cs : List Char) :
    ink (cs.flatMap (charsFor [name.letter] filling)) =
      (ink cs).flatMap (charsFor [name.letter] (ink filling)) := by
  induction cs with
  | nil => rfl
  | cons c cs ih =>
    have split : ink (c :: cs) = ink [c] ++ ink cs := ink_append [c] cs
    rw [List.flatMap_cons, ink_append, ih, ink_charsFor, split, List.flatMap_append]

theorem Cut.append_close {cs rest : List Char} {ts us : List Token} (cut : Cut cs ts)
    (others : Cut rest us) : Cut (cs ++ ')' :: rest) (ts ++ closeToken :: us) := by
  have close : Lexeme closeToken.kind [')'] rest := .single (by decide)
  induction cut with
  | nil blank => exact .cons blank close (by decide) others
  | @cons gap range behind t ts blank lexeme text _ ih =>
    have whole : Lexeme t.kind range (behind ++ ')' :: rest) := by
      refine lexeme.before_paren (fun c => head?_append_close) fun c head => ?_
      rw [ink_append, ink_cons (by decide)] at head
      exact head?_append_close head
    rw [List.append_assoc, List.append_assoc]
    exact .cons blank whole text ih

theorem Cut.inParens {cs rest : List Char} {ts us : List Token} (cut : Cut cs ts)
    (others : Cut rest us) : Cut ('(' :: (cs ++ [')']) ++ rest) (inParens ts ++ us) := by
  have opening : Lexeme openToken.kind ['('] (cs ++ ')' :: rest) := .single (by decide)
  have whole := Cut.cons areBlank_nil opening (by decide) (cut.append_close others)
  simpa [Grammar.inParens] using whole

theorem Cut.substituted {name : Var} {cs text : List Char} {ts filling : List Token}
    (cut : Cut cs ts) (known : ∀ t ∈ ts, isMeaningful t.kind = true) (inner : Cut text filling) :
    Cut (cs.flatMap (charsFor [name.letter] text)) (ts.flatMap (tokensFor name filling)) := by
  induction cut with
  | nil blank =>
    rw [flatMap_charsFor_of_areBlank blank]
    exact .nil blank
  | @cons gap range rest t ts blank lexeme tokenText others ih =>
    obtain ⟨first, later⟩ := List.forall_mem_cons.mp known
    rw [List.flatMap_append, List.flatMap_append, List.flatMap_cons, tokensFor,
      flatMap_charsFor_of_areBlank blank]
    -- The letter is the whole range of its token; a range of another token does not have it.
    split
    · rename_i isVar
      rw [lexeme.range_of_var isVar, List.flatMap_singleton, charsFor,
        if_pos (List.mem_singleton_self _)]
      exact (inner.inParens (ih later)).behind_gap blank
    · rename_i noVar
      have absent := lexeme.letter_notMem (ne_unknown_of_isMeaningful first) noVar
      have kept : range.flatMap (charsFor [name.letter] text) = range := by
        apply flatMap_charsFor_of_absent
        intro c member named
        exact absent (List.mem_singleton.mp named ▸ member)
      have whole : Lexeme t.kind range (rest.flatMap (charsFor [name.letter] text)) := by
        refine lexeme.before_paren (fun c => head?_flatMap_charsFor) fun c head => ?_
        rw [ink_flatMap_charsFor] at head
        exact head?_flatMap_charsFor head
      rw [kept]
      exact .cons blank whole tokenText (ih later)

theorem tokens_substitute {name : Var} {s part : String}
    (known : ∀ t ∈ tokens s, isMeaningful t.kind = true)
    (partKnown : ∀ t ∈ tokens part, isMeaningful t.kind = true) :
    tokens (substitute name part s) = (tokens s).flatMap (tokensFor name (tokens part)) := by
  have cut := cut_tokens s
  have inner := cut_tokens part
  apply Cut.tokens_eq
  rw [lowercase_substitute (noSigma_of_cut cut known) (noSigma_of_cut inner partKnown)]
  exact cut.substituted known inner

end Lexing

namespace Grammar

/-- A text that is read as the single expression `e` can take the place of a variable, in
parentheses: given enough levels, the whole is read with `e` in the place of the variable, and its
value is that of the text where the variable has the value of `e`. -/
theorem parse_substitute (name : Var) {s part : String} {m k : Nat} {es : List Expr} {e : Expr}
    (parsed : (parseWithin m s).result = .ok ⟨es⟩)
    (partParsed : (parseWithin k part).result = .ok ⟨[e]⟩) :
    (∃ needed, ∀ limit, needed ≤ limit →
      (parseWithin limit (substitute name part s)).result = .ok ⟨es.map (·.replace name e)⟩) ∧
    ∀ x y, Surface.eval x y ⟨es.map (·.replace name e)⟩ =
      match name with
      | .x => Surface.eval (e.eval x y) y ⟨es⟩
      | .y => Surface.eval x (e.eval x y) ⟨es⟩ := by
  refine ⟨?_, Surface.eval_replace name e es⟩
  obtain ⟨c, _, program⟩ := result_eq_ok_iff_program.mp parsed
  obtain ⟨d, _, single⟩ := result_eq_ok_iff_program.mp partParsed
  obtain ⟨_, phrase⟩ := single.phrase
  obtain ⟨needed, replaced⟩ := program.replace phrase
  rw [← tokens_substitute program.isMeaningful single.isMeaningful] at replaced
  exact ⟨needed, fun limit room => result_eq_ok_iff_program.mpr ⟨needed, room, replaced⟩⟩

theorem result_of_phrase {input : String} {ts : List Token} {e : Expr} {c m : Nat}
    (read : tokens input = ts) (phrase : Phrase .expression ts e c) (room : c ≤ m) :
    (parseWithin m input).result = .ok ⟨[e]⟩ := by
  have program : Program (ts ++ []) [e] (max c 0) := .cons phrase (.nil _) .nil
  rw [List.append_nil, Nat.max_zero, ← read] at program
  exact result_eq_ok_iff_program.mpr ⟨c, room, program⟩

theorem tokens_minus_x_power_y :
    tokens "-X**y" = [minusToken, varToken .x, operatorToken .pow, varToken .y] := by
  have small : lowercase "-X**y" = ['-', 'x', '*', '*', 'y'] := by decide
  rw [tokens_eq_lexed, small, lexed_single .minus '-' (by decide),
    lexed_single .varX 'x' (by decide), lexed_twice '*' .times .power (by decide),
    lexed_single .varY 'y' (by decide), lexed_nil]
  rfl

theorem tokens_y_minus_x :
    tokens "y-x" = [varToken .y, operatorToken .sub, varToken .x] := by
  rw [tokens_of_isPlain (by decide)]
  show lexed ['y', '-', 'x'] = _
  rw [lexed_single .varY 'y' (by decide), lexed_single .minus '-' (by decide),
    lexed_single .varX 'x' (by decide), lexed_nil]
  rfl

theorem parse_substitute_minus_x_power_y :
    ((parseWithin 9 "-X**y").result = .ok ⟨[.binary .pow (.negate (.var .x)) (.var .y)]⟩ ∧
      (parseWithin 9 "y-x").result = .ok ⟨[.binary .sub (.var .y) (.var .x)]⟩) ∧
    (∃ needed, ∀ limit, needed ≤ limit →
      (parseWithin limit "-(y-x)**y").result =
        .ok ⟨[.binary .pow (.negate (.binary .sub (.var .y) (.var .x))) (.var .y)]⟩) ∧
    ∀ x y,
      Surface.eval x y ⟨[.binary .pow (.negate (.binary .sub (.var .y) (.var .x))) (.var .y)]⟩ =
        Surface.eval (Expr.eval x y (.binary .sub (.var .y) (.var .x))) y
          ⟨[.binary .pow (.negate (.var .x)) (.var .y)]⟩ := by
  have x : Phrase .primary [varToken .x] (.var .x) 0 := .var rfl
  have y : Phrase .primary [varToken .y] (.var .y) 0 := .var rfl
  have parsed : (parseWithin 9 "-X**y").result =
      .ok ⟨[.binary .pow (.negate (.var .x)) (.var .y)]⟩ :=
    result_of_phrase tokens_minus_x_power_y (.expression (.binary .pow (.minus rfl x) (.plain y)))
      (by decide)
  have partParsed : (parseWithin 9 "y-x").result = .ok ⟨[.binary .sub (.var .y) (.var .x)]⟩ :=
    result_of_phrase tokens_y_minus_x (.expression (.binary .sub (.plain y) (.plain x))) (by decide)
  obtain ⟨reads, values⟩ := parse_substitute .x parsed partParsed
  exact ⟨⟨parsed, partParsed⟩, reads, fun a b => values a b⟩

end Grammar

end SurfaceLang
