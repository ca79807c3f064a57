import SurfaceLang.Proofs.Limit
import SurfaceLang.Proofs.Neighbors

namespace SurfaceLang.Lexing

open Text Grammar

/-- A blank stands behind the first `k` characters that are none. -/
def BlankAt (cs : List Char) (k : Nat) : Prop :=
  ∃ before b after, cs = before ++ b :: after ∧ isBlank b = true ∧ (ink before).length = k

def spelled (ts : List Token) : List Char :=
  ts.flatMap (·.text.toList)

/-- The text `ds` is the text `cs`, which has the tokens `ts`, with blanks put in and left out: none
is put into a number or a word, and none is left out that keeps two characters apart of which the
second one goes on with the first. -/
structure Respaced (cs : List Char) (ts : List Token) (ds : List Char) : Prop where
  same : ink ds = ink cs
  unbroken : ∀ before t after, ts = before ++ t :: after → isUnbroken t.kind = true →
    ∀ k, (spelled before).length < k → k < (spelled before).length + t.text.length → ¬ BlankAt ds k
  apart : ∀ before c d after, ink cs = before ++ c :: d :: after →
    clings (.of c) (.of d) = true → BlankAt cs (before.length + 1) → BlankAt ds (before.length + 1)

theorem BlankAt.le {cs : List Char} {k : Nat} (blankAt : BlankAt cs k) : k ≤ (ink cs).length := by
  obtain ⟨before, b, after, rfl, _, rfl⟩ := blankAt
  rw [ink_append, List.length_append]
  exact Nat.le_add_right _ _

theorem BlankAt.append_left {ds : List Char} {k : Nat} (blankAt : BlankAt ds k)
    (cs : List Char) : BlankAt (cs ++ ds) ((ink cs).length + k) := by
  obtain ⟨before, b, after, rfl, blank, rfl⟩ := blankAt
  exact ⟨cs ++ before, b, after, by simp, blank, by rw [ink_append, List.length_append]⟩

theorem BlankAt.append_cases {cs ds : List Char} {k : Nat} (blankAt : BlankAt (cs ++ ds) k) :
    BlankAt cs k ∨ ∃ j, BlankAt ds j ∧ k = (ink cs).length + j := by
  obtain ⟨before, b, after, eq, blank, rfl⟩ := blankAt
  rcases List.append_eq_append_iff.mp eq with ⟨middle, rfl, rfl⟩ | ⟨middle, rfl, tail⟩
  · refine .inr ⟨_, ⟨middle, b, after, rfl, blank, rfl⟩, ?_⟩
    rw [ink_append, List.length_append]
  · cases middle with
    | nil =>
      rw [List.append_nil]
      exact .inr ⟨0, ⟨[], b, after, tail.symm, blank, rfl⟩, rfl⟩
    | cons c middle =>
      obtain ⟨rfl, rfl⟩ := List.cons.inj tail
      exact .inl ⟨before, b, middle, rfl, blank, rfl⟩

theorem not_blankAt_of_ink {cs : List Char} (noBlank : ∀ c ∈ cs, isBlank c = false) (k : Nat) :
    ¬ BlankAt cs k := by
  rintro ⟨before, b, after, rfl, blank, _⟩
  cases (noBlank b (by simp)).symm.trans blank

theorem BlankAt.of_append {cs ds : List Char} {k : Nat} (positive : 0 < k)
    (blankAt : BlankAt (cs ++ ds) ((ink cs).length + k)) : BlankAt ds k := by
  rcases blankAt.append_cases with early | ⟨j, later, eq⟩
  · exact absurd early.le (by omega)
  · rwa [Nat.add_left_cancel eq]

theorem BlankAt.of_gap {gap cs : List Char} {k : Nat} (blank : AreBlank gap) (positive : 0 < k)
    (blankAt : BlankAt (gap ++ cs) k) : BlankAt cs k := by
  have none : (ink gap).length = 0 := by rw [ink_eq_nil_iff.mpr blank, List.length_nil]
  apply BlankAt.of_append positive
  rwa [none, Nat.zero_add]

theorem isBlank_head_of_blankAt {cs : List Char} (blankAt : BlankAt cs 0) :
    ∀ c ∈ cs.head?, isBlank c = true := by
  obtain ⟨before, b, after, rfl, blank, none⟩ := blankAt
  have gap := ink_eq_nil_iff.mp (List.eq_nil_of_length_eq_zero none)
  intro c member
  cases before with
  | nil =>
    cases member
    exact blank
  | cons d before =>
    cases member
    exact gap c List.mem_cons_self

theorem exists_split_cons {cs later : List Char} {c : Char} (eq : ink cs = c :: later) :
    ∃ gap rest, cs = gap ++ c :: rest ∧ AreBlank gap ∧ isBlank c = false ∧ ink rest = later := by
  cases split : cs.dropWhile isBlank with
  | nil =>
    rw [ink_eq_nil_iff.mpr (List.dropWhile_eq_nil_iff.mp split)] at eq
    cases eq
  | cons d rest =>
    obtain ⟨rfl, rfl⟩ := List.cons.inj ((ink_eq_of_dropWhile split).symm.trans eq)
    obtain ⟨gap, split, blank, noBlank⟩ := exists_gap split
    exact ⟨gap, rest, split, blank, noBlank, rfl⟩

theorem exists_split {cs front behind : List Char} {first : Char}
    (eq : ink cs = first :: front ++ behind)
    (unbroken : ∀ k, 0 < k → k < (first :: front).length → ¬ BlankAt cs k) :
    ∃ gap rest, cs = gap ++ (first :: front ++ rest) ∧ AreBlank gap ∧ ink rest = behind := by
  induction front generalizing cs first with
  | nil =>
    obtain ⟨gap, rest, split, blank, _, later⟩ := exists_split_cons eq
    exact ⟨gap, rest, split, blank, later⟩
  | cons second front ih =>
    obtain ⟨gap, rest, rfl, blank, noBlank, later⟩ := exists_split_cons eq
    have shift {k : Nat} (blankAt : BlankAt rest k) : BlankAt (gap ++ first :: rest) (1 + k) := by
      have inside := blankAt.append_left (gap ++ [first])
      rw [ink_append, ink_eq_nil_iff.mpr blank, ink_cons noBlank, List.append_assoc] at inside
      exact inside
    have inside (k : Nat) (positive : 0 < k) (below : k < (second :: front).length) :
        ¬ BlankAt rest k := by
      intro blankAt
      refine unbroken (1 + k) (by omega) ?_ (shift blankAt)
      rw [List.length_cons]
      omega
    obtain ⟨tight, last, rfl, tightBlank, lastInk⟩ := ih later inside
    -- the second character is found behind a gap, which is empty as no blank may stand here
    cases tight with
    | nil => exact ⟨gap, last, rfl, blank, lastInk⟩
    | cons b tight =>
      have here : BlankAt (b :: tight ++ (second :: front ++ last)) 0 :=
        ⟨[], b, _, rfl, tightBlank b List.mem_cons_self, rfl⟩
      exact absurd (shift here) (unbroken 1 Nat.one_pos (by simp))

theorem mem_head?_of_clings {range rest gap behind : List Char} {l c : Char}
    (nonempty : range ≠ []) (noBlank : ∀ c ∈ range, isBlank c = false) (blank : AreBlank gap)
    (same : ink behind = ink rest) (goesOn : clings (.of l) (.of c) = true)
    (head : c ∈ behind.head?)
    (apart : BlankAt (range ++ rest) range.length →
      BlankAt (gap ++ (range ++ behind)) range.length) : c ∈ rest.head? := by
  have cInk := isBlank_eq_false_of_clings goesOn
  have kept := congrArg List.length (ink_eq_self_iff.mpr noBlank)
  obtain ⟨others, rfl⟩ := List.head?_eq_some_iff.mp head
  rw [ink_cons cInk] at same
  cases rest with
  | nil => cases same
  | cons b rest =>
    cases bBlank : isBlank b with
    | false =>
      rw [ink_cons bBlank] at same
      exact congrArg some (List.cons.inj same).1.symm
    | true =>
      -- the blank `b` stands behind the range, so there is one in front of `c` too
      have there := apart ⟨range, b, rest, rfl, bBlank, kept⟩
      have front := there.of_gap blank (List.length_pos_of_ne_nil nonempty)
      rcases front.append_cases with inside | ⟨j, between, place⟩
      · exact absurd inside (not_blankAt_of_ink noBlank _)
      · have start : j = 0 := by omega
        have cBlank := isBlank_head_of_blankAt (start ▸ between) c rfl
        cases cInk.symm.trans cBlank

theorem Lexeme.respaced {kind : TokenKind} {range rest ds : List Char}
    (lexeme : Lexeme kind range rest) (same : ink ds = ink range ++ ink rest)
    (unbroken : isUnbroken kind = true → ∀ k, 0 < k → k < (ink range).length → ¬ BlankAt ds k)
    (apart : ∀ l ∈ (ink range).getLast?, ∀ c ∈ (ink rest).head?, clings (.of l) (.of c) = true →
      BlankAt (range ++ rest) (ink range).length → BlankAt ds (ink range).length) :
    ∃ gap other behind, ds = gap ++ (other ++ behind) ∧ AreBlank gap ∧ ink other = ink range ∧
      ink behind = ink rest ∧ Lexeme kind other behind := by
  rcases lexeme.range_cases with ⟨first, later, rfl, noBlank, whole⟩ |
    ⟨c, alone, inner, rfl, noBlank, blank, pairs⟩
  · have kept := ink_eq_self_iff.mpr noBlank
    rw [kept] at same unbroken apart ⊢
    have inside : ∀ k, 0 < k → k < (first :: later).length → ¬ BlankAt ds k := by
      rcases whole with rfl | isWhole
      · intro k positive below
        rw [List.length_singleton] at below
        omega
      · exact unbroken isWhole
    obtain ⟨gap, behind, rfl, blank, behindInk⟩ := exists_split same inside
    refine ⟨gap, _, behind, rfl, blank, kept, behindInk, lexeme.of_rest ?_ ?_⟩
    · intro l last c head goesOn
      have inkHead : c ∈ (ink rest).head? := by
        obtain ⟨others, rfl⟩ := List.head?_eq_some_iff.mp head
        rw [← behindInk, ink_cons (isBlank_eq_false_of_clings goesOn)]
        rfl
      exact mem_head?_of_clings (List.cons_ne_nil first later) noBlank blank behindInk goesOn head
        (apart l last c inkHead goesOn)
    · intro c pair _ head
      rwa [← behindInk]
  · rw [ink_pair noBlank blank] at same ⊢
    obtain ⟨gap, rest₁, rfl, outer, _, same⟩ := exists_split_cons same
    obtain ⟨middle, rest₂, rfl, between, _, same⟩ := exists_split_cons same
    refine ⟨gap, c :: (middle ++ [c]), rest₂, by simp, outer, ?_, same, .twice pairs between⟩
    exact ink_pair noBlank between

theorem Respaced.tail {front rest other behind : List Char} {t : Token} {ts : List Token}
    (respaced : Respaced (front ++ rest) (t :: ts) (other ++ behind))
    (frontInk : ink front = t.text.toList) (otherInk : ink other = t.text.toList) :
    Respaced rest ts behind := by
  have length : t.text.length = (ink other).length := by rw [otherInk, String.length_toList]
  constructor
  · have same := respaced.same
    rw [ink_append, ink_append, frontInk, otherInk] at same
    exact List.append_cancel_left same
  · -- places in the rest are counted from behind the text of `t`
    rintro before u after rfl isWhole k above below blankAt
    have there := blankAt.append_left other
    have place : (spelled (t :: before)).length = (ink other).length + (spelled before).length := by
      rw [← length, ← String.length_toList, ← List.length_append]
      rfl
    refine respaced.unbroken (t :: before) u after rfl isWhole _ ?_ ?_ there <;> omega
  · intro before c d after split goesOn blankAt
    have whole : ink (front ++ rest) = (t.text.toList ++ before) ++ c :: d :: after := by
      rw [ink_append, frontInk, split, List.append_assoc]
    have here := blankAt.append_left front
    have place :
        (t.text.toList ++ before).length + 1 = (ink other).length + (before.length + 1) := by
      rw [otherInk, List.length_append, Nat.add_assoc]
    have there := respaced.apart _ c d after whole goesOn
    rw [frontInk, ← otherInk] at here
    rw [place] at there
    exact (there here).of_append (Nat.succ_pos _)

theorem Cut.respaced {cs ds : List Char} {ts : List Token} (cut : Cut cs ts)
    (respaced : Respaced cs ts ds) : Cut ds ts := by
  induction cut generalizing ds with
  | nil blank =>
    have same := respaced.same
    rw [ink_eq_nil_iff.mpr blank] at same
    exact .nil (ink_eq_nil_iff.mp same)
  | @cons gap range rest t ts blank lexeme text others ih =>
    have inked : ink range = t.text.toList := by rw [text, String.toList_ofList]
    have none := ink_eq_nil_iff.mpr blank
    have same : ink ds = ink range ++ ink rest := by
      rw [respaced.same, ink_append, none, ink_append, List.nil_append]
    have length : (ink range).length = t.text.length := by rw [inked, String.length_toList]
    have unbroken (whole : isUnbroken t.kind = true) (k : Nat) (positive : 0 < k)
        (below : k < (ink range).length) : ¬ BlankAt ds k := by
      refine respaced.unbroken [] t ts rfl whole k positive ?_
      rwa [length, ← Nat.zero_add t.text.length] at below
    have apart (l : Char) (last : l ∈ (ink range).getLast?) (c : Char) (head : c ∈ (ink rest).head?)
        (goesOn : clings (.of l) (.of c) = true)
        (blankAt : BlankAt (range ++ rest) (ink range).length) : BlankAt ds (ink range).length := by
      obtain ⟨before, split⟩ := List.getLast?_eq_some_iff.mp last
      obtain ⟨after, later⟩ := List.head?_eq_some_iff.mp head
      have whole : ink (gap ++ (range ++ rest)) = before ++ l :: c :: after := by
        rw [ink_append, none, ink_append, split, later]
        simp
      have here := blankAt.append_left gap
      have place : (ink range).length = before.length + 1 := by rw [split, List.length_append]; rfl
      rw [none, List.length_nil, Nat.zero_add, place] at here
      rw [place]
      exact respaced.apart before l c after whole goesOn here
    obtain ⟨gap', range', rest', rfl, blank', inked', restInk, lexeme'⟩ :=
      lexeme.respaced same unbroken apart
    have front : ink (gap ++ range) = t.text.toList := by
      rw [ink_append, none, inked, List.nil_append]
    have front' : ink (gap' ++ range') = t.text.toList := by
      rw [ink_append, ink_eq_nil_iff.mpr blank', inked', inked, List.nil_append]
    rw [← List.append_assoc, ← List.append_assoc] at respaced
    exact .cons blank' lexeme' (by rw [inked', text]) (ih (respaced.tail front front'))

theorem Lexeme.spelled {kind : TokenKind} {range rest other : List Char}
    (lexeme : Lexeme kind range rest) (gap : ∀ c ∈ other.head?, isBlank c = true)
    (same : ink other = ink rest) : Lexeme kind (ink range) other := by
  rcases lexeme.range_cases with ⟨first, later, rfl, noBlank, _⟩ |
    ⟨c, alone, inner, rfl, noBlank, blank, pairs⟩
  · rw [ink_eq_self_iff.mpr noBlank]
    refine lexeme.of_rest ?_ ?_
    · intro l _ c head goesOn
      cases (gap c head).symm.trans (isBlank_eq_false_of_clings goesOn)
    · intro c pair _ head
      rwa [← same]
  · rw [ink_pair noBlank blank]
    exact .twice pairs areBlank_nil

/-- The texts of tokens with a single space between any two. -/
def spaced (ts : List Token) : String :=
  " ".intercalate (ts.map (·.text))

theorem toList_spaced_cons (t u : Token) (ts : List Token) :
    (spaced (t :: u :: ts)).toList = t.text.toList ++ ' ' :: (spaced (u :: ts)).toList := by
  simp [spaced]

theorem toList_spaced_single (t : Token) : (spaced [t]).toList = t.text.toList := by
  simp [spaced]

theorem Cut.cons_spelled {range rest other : List Char} {t : Token} {ts : List Token}
    (lexeme : Lexeme t.kind range rest) (text : t.text = String.ofList (ink range))
    (gap : ∀ c ∈ other.head?, isBlank c = true) (same : ink other = ink rest)
    (others : Cut other ts) : Cut (t.text.toList ++ other) (t :: ts) := by
  have again : ink (ink range) = ink range := List.filter_filter.trans (by simp [ink])
  have inked : t.text.toList = ink range := by rw [text, String.toList_ofList]
  rw [inked]
  exact .cons areBlank_nil (lexeme.spelled gap same) (by rw [again, text]) others

theorem Cut.spaced {cs : List Char} {ts : List Token} (cut : Cut cs ts) :
    Cut (spaced ts).toList ts := by
  induction cut with
  | nil => exact .nil areBlank_nil
  | @cons _ _ _ t ts _ lexeme text others ih =>
    have kept := ih.ink_eq.trans others.ink_eq.symm
    cases ts with
    | nil =>
      have last : Cut (t.text.toList ++ []) [t] :=
        .cons_spelled lexeme text nofun kept (.nil areBlank_nil)
      rwa [List.append_nil, ← toList_spaced_single] at last
    | cons u ts =>
      have space : AreBlank [' '] := List.forall_mem_singleton.mpr (by decide)
      rw [toList_spaced_cons]
      refine .cons_spelled lexeme text (fun c head => ?_) ?_ (ih.behind_gap space)
      · cases head
        decide
      · rwa [ink_cons_of_blank (by decide)]

theorem mem_spaced {c : Char} {ts : List Token} (member : c ∈ (spaced ts).toList) :
    c = ' ' ∨ c ∈ spelled ts := by
  induction ts with
  | nil => cases member
  | cons t ts ih =>
    have first (inside : c ∈ t.text.toList) : c ∈ spelled (t :: ts) :=
      List.mem_append_left (spelled ts) inside
    cases ts with
    | nil => exact .inr (first (toList_spaced_single t ▸ member))
    | cons u ts =>
      rw [toList_spaced_cons, List.mem_append, List.mem_cons] at member
      rcases member with inside | rfl | later
      · exact .inr (first inside)
      · exact .inl rfl
      · exact (ih later).imp_right (List.mem_append_right t.text.toList)

theorem Cut.tokens_eq_of_small {u : String} {ts : List Token} (cut : Cut u.toList ts)
    (small : lowercase u = u.toList) : tokens u = ts :=
  Cut.tokens_eq (by rwa [small])

theorem lowercase_spaced {u : String} {ts : List Token} (small : lowercase u = u.toList)
    (cut : Cut u.toList ts) : lowercase (spaced ts) = (spaced ts).toList := by
  have alone := (lowercaseAfter_eq_self_iff false).mp small
  refine (lowercaseAfter_eq_self_iff false).mpr fun c member => ?_
  rcases mem_spaced member with rfl | inside
  · decide
  · have inked : c ∈ ink u.toList := cut.ink_eq ▸ inside
    exact alone c (List.mem_of_mem_filter inked)

/-- A text in small letters has the tokens of every other such text that differs from it only in
blanks that do not matter, and is read as the same. The texts of its tokens, with a space between
any two, are such a text. -/
theorem tokens_respaced (u : String) (small : lowercase u = u.toList) :
    (∀ v : String, lowercase v = v.toList → Respaced u.toList (tokens u) v.toList →
      tokens v = tokens u ∧ ∀ m, (parseWithin m v).result = (parseWithin m u).result) ∧
    tokens (" ".intercalate ((tokens u).map (·.text))) = tokens u := by
  have cut := cut_tokens u
  rw [small] at cut
  constructor
  · intro v vSmall respaced
    have same := (cut.respaced respaced).tokens_eq_of_small vSmall
    exact ⟨same, result_congr same⟩
  · exact cut.spaced.tokens_eq_of_small (lowercase_spaced small cut)

theorem tokens_one_two_power_x :
    tokens "1 2**x" = [⟨.number, "1"⟩, ⟨.number, "2"⟩, ⟨.power, "**"⟩, ⟨.varX, "x"⟩] := by
  have one : IsNumeral ['1'] := .whole nofun (List.forall_mem_singleton.mpr rfl)
  have two : IsNumeral ['2'] := .whole nofun (List.forall_mem_singleton.mpr rfl)
  rw [tokens_of_isPlain (by decide)]
  show lexed (['1'] ++ ' ' :: (['2'] ++ ['*', '*', 'x'])) = _
  rw [lexed_numeral one (by simp [NumberEnds]), lexed_space,
    lexed_numeral two (by simp [NumberEnds]), lexed_twice '*' .times .power (by decide),
    lexed_single .varX 'x' (by decide), lexed_nil]

theorem tokens_power_respaced :
    (lowercase "1 2**x" = "1 2**x".toList ∧ lowercase "1\t2 * * x" = "1\t2 * * x".toList ∧
      Respaced "1 2**x".toList (tokens "1 2**x") "1\t2 * * x".toList) ∧
    tokens "1\t2 * * x" = tokens "1 2**x" ∧
    ∀ m, (parseWithin m "1\t2 * * x").result = (parseWithin m "1 2**x").result := by
  have small : lowercase "1 2**x" = "1 2**x".toList := lowercaseAfter_of_isPlain (by decide) false
  have small' : lowercase "1\t2 * * x" = "1\t2 * * x".toList :=
    lowercaseAfter_of_isPlain (by decide) false
  have respaced : Respaced "1 2**x".toList (tokens "1 2**x") "1\t2 * * x".toList := by
    constructor
    · decide
    · intro before t after split whole k above below
      have single : ∀ t ∈ tokens "1 2**x", isUnbroken t.kind = true → t.text.length = 1 := by
        rw [tokens_one_two_power_x]
        decide
      have length := single t (by simp [split]) whole
      omega
    · intro before c d after split goesOn _
      have inked : ink "1 2**x".toList = ['1', '2', '*', '*', 'x'] := by decide
      rw [inked] at split
      match before, split with
      | [], _ => exact ⟨['1'], '\t', _, rfl, by decide, rfl⟩
      | [_], rfl => cases goesOn
      | [_, _], rfl => cases goesOn
      | [_, _, _], rfl => cases goesOn
      | _ :: _ :: _ :: _ :: before, split =>
        have length := congrArg List.length split
        simp only [List.length_cons, List.length_append, List.length_nil] at length
        omega
  exact ⟨⟨small, small', respaced⟩,
    (tokens_respaced "1 2**x" small).1 "1\t2 * * x" small' respaced⟩

end SurfaceLang.Lexing
