import SurfaceLang.Proofs.Lexemes

namespace SurfaceLang.Lexing

open Text Grammar

/-- The characters that are no blanks. -/
def ink (cs : List Char) : List Char :=
  cs.filter (!isBlank ·)

def AreBlank (cs : List Char) : Prop :=
  ∀ c ∈ cs, isBlank c = true

/-- The characters `range` are a token of the given kind where `rest` stands behind them. -/
inductive Lexeme : TokenKind → (range rest : List Char) → Prop where
  | whole {digits rest : List Char} (nonempty : digits ≠ []) (areDigits : AreDigits digits)
      (noDigit : Ends .digit rest) (noPoint : Ends .decimalPoint rest) : Lexeme .number digits rest
  | decimal {digits places rest : List Char} (nonempty : digits ≠ []) (areDigits : AreDigits digits)
      (fraction : AreDigits places) (ends : Ends .digit rest) :
      Lexeme .number (digits ++ '.' :: places) rest
  | single {kind : TokenKind} {c : Char} {rest : List Char} (isSingle : (kind, c) ∈ singles) :
      Lexeme kind [c] rest
  | function {rest : List Char} (f : Function) (ends : Ends .letter rest) :
      Lexeme (functionToken f).kind f.name.toList rest
  | word {first : Char} {letters rest : List Char}
      (areLetters : ∀ c ∈ first :: letters, CharClass.of c = .letter)
      (noVar : first ≠ 'x' ∧ first ≠ 'y')
      (noFunction : ∀ f : Function, first :: letters ≠ f.name.toList) (ends : Ends .letter rest) :
      Lexeme .unknown (first :: letters) rest
  | twice {c : Char} {alone pair : TokenKind} {gap rest : List Char}
      (pairs : (c, alone, pair) ∈ pairings) (blank : AreBlank gap) :
      Lexeme pair (c :: (gap ++ [c])) rest
  | once {c : Char} {alone pair : TokenKind} {rest : List Char}
      (pairs : (c, alone, pair) ∈ pairings) (apart : (ink rest).head? ≠ some c) :
      Lexeme alone [c] rest
  | stray {c : Char} {rest : List Char} (other : CharClass.of c = .other)
      (noSymbol : c ∉ ['+', '-', '*', '/', '(', ')']) : Lexeme .unknown [c] rest

/-- The characters are cut into the tokens: one range after the other, with nothing but blanks
outside them, and the text of each token is its range without blanks. -/
inductive Cut : List Char → List Token → Prop where
  | nil {gap : List Char} (blank : AreBlank gap) : Cut gap []
  | cons {gap range rest : List Char} {t : Token} {ts : List Token} (blank : AreBlank gap)
      (lexeme : Lexeme t.kind range rest) (text : t.text = String.ofList (ink range))
      (others : Cut rest ts) : Cut (gap ++ (range ++ rest)) (t :: ts)

theorem areBlank_nil : AreBlank [] :=
  nofun

theorem ink_append (cs ds : List Char) : ink (cs ++ ds) = ink cs ++ ink ds :=
  List.filter_append cs ds

theorem ink_cons_of_blank {c : Char} (blank : isBlank c = true) (cs : List Char) :
    ink (c :: cs) = ink cs := by
  simp [ink, blank]

theorem ink_cons {c : Char} (noBlank : isBlank c = false) (cs : List Char) :
    ink (c :: cs) = c :: ink cs := by
  simp [ink, noBlank]

theorem ink_eq_nil_iff {cs : List Char} : ink cs = [] ↔ AreBlank cs := by
  simp [ink, AreBlank]

theorem ink_eq_self_iff {cs : List Char} : ink cs = cs ↔ ∀ c ∈ cs, isBlank c = false := by
  simp [ink]

theorem exists_gap {cs later : List Char} {d : Char} (eq : cs.dropWhile isBlank = d :: later) :
    ∃ gap, cs = gap ++ d :: later ∧ AreBlank gap ∧ isBlank d = false := by
  have blank : AreBlank (cs.takeWhile isBlank) := fun c member => List.mem_takeWhile_imp member
  have head := List.head?_dropWhile_not isBlank cs
  rw [eq] at head
  refine ⟨cs.takeWhile isBlank, ?_, blank, by simpa using head⟩
  rw [← eq, List.takeWhile_append_dropWhile]

theorem ink_eq_of_dropWhile {cs later : List Char} {d : Char}
    (eq : cs.dropWhile isBlank = d :: later) : ink cs = d :: ink later := by
  obtain ⟨gap, rfl, blank, noBlank⟩ := exists_gap eq
  rw [ink_append, ink_eq_nil_iff.mpr blank, ink_cons noBlank, List.nil_append]

theorem ink_pair {c : Char} {gap : List Char} (noBlank : isBlank c = false) (blank : AreBlank gap) :
    ink (c :: (gap ++ [c])) = [c, c] := by
  rw [ink_cons noBlank, ink_append, ink_eq_nil_iff.mpr blank, ink_cons noBlank]
  rfl

theorem isBlank_eq_false_of_other {c : Char} (other : CharClass.of c = .other) :
    isBlank c = false :=
  isBlank_eq_false_of_ne (by rw [other]; nofun)

theorem ink_of_areDigits {cs : List Char} (digits : AreDigits cs) : ink cs = cs :=
  ink_eq_self_iff.mpr fun c member => isBlank_eq_false_of_isDigit (digits c member)

theorem ink_decimal {digits places : List Char} (areDigits : AreDigits digits)
    (fraction : AreDigits places) : ink (digits ++ '.' :: places) = digits ++ '.' :: places := by
  have point : isBlank '.' = false := by decide
  rw [ink_append, ink_of_areDigits areDigits, ink_cons point, ink_of_areDigits fraction]

theorem scan_stray {c : Char} (other : CharClass.of c = .other)
    (noSymbol : c ∉ ['+', '-', '*', '/', '(', ')']) (rest : List Char) :
    scan c rest = (⟨.unknown, String.ofList [c]⟩, rest) := by
  simp only [List.mem_cons, List.not_mem_nil, or_false, not_or] at noSymbol
  simp only [scan, other, scanSymbol, noSymbol, if_false]
  rfl

theorem head?_ink (cs : List Char) : (ink cs).head? = (cs.dropWhile isBlank).head? := by
  cases eq : cs.dropWhile isBlank with
  | nil => rw [ink_eq_nil_iff.mpr (List.dropWhile_eq_nil_iff.mp eq)]
  | cons d later => rw [ink_eq_of_dropWhile eq, List.head?_cons, List.head?_cons]

theorem scanDouble_of_gap {gap : List Char} (blank : AreBlank gap) {c : Char}
    (noBlank : isBlank c = false) (single double : Token) (rest : List Char) :
    scanDouble c single double (gap ++ c :: rest) = (double, rest) := by
  have skip : (gap ++ c :: rest).dropWhile isBlank = c :: rest := by
    rw [List.dropWhile_append_of_pos blank, List.dropWhile_cons_of_neg (by simp [noBlank])]
  simp only [scanDouble, skip, if_true]

theorem wordKind_eq_unknown {word : List Char} (noFunction : ∀ f : Function, word ≠ f.name.toList) :
    Cursor.wordKind (String.ofList word) = .unknown := by
  have apart (f : Function) : String.ofList word ≠ f.name := by
    intro same
    apply noFunction f
    rw [← same, String.toList_ofList]
  exact (if_neg (apart .sin)).trans ((if_neg (apart .cos)).trans (if_neg (apart .tan)))

theorem Lexeme.scan_eq {kind : TokenKind} {range rest : List Char}
    (lexeme : Lexeme kind range rest) :
    ∃ d later, range = d :: later ∧ isBlank d = false ∧
      scan d (later ++ rest) = (⟨kind, String.ofList (ink range)⟩, rest) := by
  cases lexeme with
  | whole nonempty areDigits noDigit noPoint =>
    obtain ⟨d, later, rfl⟩ := List.exists_cons_of_ne_nil nonempty
    refine ⟨d, later, rfl, isBlank_eq_false_of_isDigit (areDigits d List.mem_cons_self), ?_⟩
    rw [ink_of_areDigits areDigits, scan_whole areDigits noDigit noPoint]
  | @decimal digits places _ nonempty areDigits fraction ends =>
    obtain ⟨d, later, rfl⟩ := List.exists_cons_of_ne_nil nonempty
    refine ⟨d, later ++ '.' :: places, rfl,
      isBlank_eq_false_of_isDigit (areDigits d List.mem_cons_self), ?_⟩
    rw [List.append_assoc, List.cons_append, scan_decimal areDigits fraction ends,
      ink_decimal areDigits fraction]
  | @single _ c _ isSingle =>
    obtain ⟨noBlank, scanned⟩ := scan_single isSingle rest
    exact ⟨c, [], rfl, noBlank, by rw [List.nil_append, scanned, ink_cons noBlank]; rfl⟩
  | function f ends =>
    obtain ⟨d, later, name⟩ := exists_name_eq_cons f
    obtain ⟨noBlank, scanned⟩ := scan_function f name ends
    have text : (⟨(functionToken f).kind, String.ofList (ink f.name.toList)⟩ : Token) =
        functionToken f := by
      cases f <;> decide
    exact ⟨d, later, name, noBlank, by rw [scanned, text]⟩
  | word areLetters noVar noFunction ends =>
    have noBlank := fun c member => isBlank_eq_false_of_letter (areLetters c member)
    refine ⟨_, _, rfl, noBlank _ List.mem_cons_self, ?_⟩
    rw [scan_word areLetters noVar ends, wordKind_eq_unknown noFunction,
      ink_eq_self_iff.mpr noBlank]
  | @twice c _ _ gap _ pairs blank =>
    obtain ⟨noBlank, scanned⟩ := scan_pairing pairs (gap ++ [c] ++ rest)
    refine ⟨c, gap ++ [c], rfl, noBlank, ?_⟩
    rw [scanned, List.append_assoc, List.singleton_append, scanDouble_of_gap blank noBlank,
      ink_pair noBlank blank]
  | @once c _ _ _ pairs apart =>
    obtain ⟨noBlank, scanned⟩ := scan_pairing pairs rest
    have differs : ∀ d ∈ (rest.dropWhile isBlank).head?, d ≠ c := by
      rintro d member rfl
      exact apart ((head?_ink rest).trans member)
    refine ⟨c, [], rfl, noBlank, ?_⟩
    rw [List.nil_append, scanned, scanDouble_of_ne differs, ink_cons noBlank]
    rfl
  | stray other noSymbol =>
    have noBlank := isBlank_eq_false_of_other other
    refine ⟨_, [], rfl, noBlank, ?_⟩
    rw [List.nil_append, scan_stray other noSymbol, ink_cons noBlank]
    rfl

/-- What has been read of the characters is a token in front of them. -/
def CutsOff (cs : List Char) (read : Token × List Char) : Prop :=
  ∃ range, cs = range ++ read.2 ∧ Lexeme read.1.kind range read.2 ∧
    read.1.text = String.ofList (ink range)

theorem run_spec {wanted : CharClass} {cs front behind : List Char}
    (read : run wanted cs = (front, behind)) :
    cs = front ++ behind ∧ (∀ c ∈ front, CharClass.of c = wanted) ∧ Ends wanted behind := by
  obtain ⟨rfl, rfl⟩ := Prod.mk.inj read
  refine ⟨List.takeWhile_append_dropWhile.symm, fun c member => ?_, fun c member => ?_⟩
  · have inside := List.mem_takeWhile_imp member
    exact of_decide_eq_true inside
  · have stop := List.head?_dropWhile_not (CharClass.of · = wanted) cs
    rw [Option.mem_def.mp member] at stop
    simpa using stop

theorem digits_spec {cs front behind : List Char} (read : run .digit cs = (front, behind)) :
    cs = front ++ behind ∧ AreDigits front ∧ Ends .digit behind := by
  obtain ⟨split, inside, stop⟩ := run_spec read
  exact ⟨split, fun c member => of_eq_digit_iff.mp (inside c member), stop⟩

theorem cutsOff_scanNumber {d : Char} (digit : d.isDigit = true) (cs : List Char) :
    CutsOff (d :: cs) (scanNumber d cs) := by
  rcases read : run .digit cs with ⟨whole, later⟩
  obtain ⟨rfl, inside, stop⟩ := digits_spec read
  have digits : AreDigits (d :: whole) := List.forall_mem_cons.mpr ⟨digit, inside⟩
  have nonempty := List.cons_ne_nil d whole
  simp only [scanNumber, read]
  split
  · rename_i rest
    rcases readPlaces : run .digit rest with ⟨places, last⟩
    obtain ⟨rfl, fraction, stop⟩ := digits_spec readPlaces
    refine ⟨d :: whole ++ '.' :: places, by simp, .decimal nonempty digits fraction stop, ?_⟩
    rw [ink_decimal digits fraction]
  · rename_i noPoint
    refine ⟨d :: whole, rfl, .whole nonempty digits stop fun c member kind => ?_, ?_⟩
    · obtain ⟨rest, eq⟩ := List.head?_eq_some_iff.mp member
      exact noPoint rest (of_eq_decimalPoint_iff.mp kind ▸ eq)
    · rw [ink_of_areDigits digits]

theorem cutsOff_single {kind : TokenKind} {c : Char} (isSingle : (kind, c) ∈ singles)
    (rest : List Char) : CutsOff (c :: rest) (⟨kind, String.ofList [c]⟩, rest) := by
  obtain ⟨noBlank, _⟩ := scan_single isSingle rest
  exact ⟨[c], rfl, .single isSingle, by rw [ink_cons noBlank]; rfl⟩

theorem cutsOff_scanWord {d : Char} (letter : CharClass.of d = .letter) (cs : List Char) :
    CutsOff (d :: cs) (scanWord d cs) := by
  unfold scanWord
  split
  · rename_i isX
    exact isX ▸ cutsOff_single (by decide) cs
  split
  · rename_i isY
    exact isY ▸ cutsOff_single (by decide) cs
  rename_i noX noY
  rcases read : run .letter cs with ⟨word, rest⟩
  obtain ⟨rfl, inside, stop⟩ := run_spec read
  have letters : ∀ c ∈ d :: word, CharClass.of c = .letter :=
    List.forall_mem_cons.mpr ⟨letter, inside⟩
  have kept : ink (d :: word) = d :: word :=
    ink_eq_self_iff.mpr fun c member => isBlank_eq_false_of_letter (letters c member)
  dsimp only
  refine ⟨d :: word, rfl, ?_, by rw [kept]⟩
  by_cases named : ∃ f : Function, d :: word = f.name.toList
  · obtain ⟨f, name⟩ := named
    have kind : Cursor.wordKind f.name = (functionToken f).kind := by cases f <;> decide
    rw [name, String.ofList_toList, kind]
    exact .function f stop
  · have noFunction := not_exists.mp named
    rw [wordKind_eq_unknown noFunction]
    exact .word letters ⟨noX, noY⟩ noFunction stop

theorem cutsOff_scanDouble {d : Char} {alone pair : TokenKind} (pairs : (d, alone, pair) ∈ pairings)
    (cs : List Char) :
    CutsOff (d :: cs)
      (scanDouble d ⟨alone, String.ofList [d]⟩ ⟨pair, String.ofList [d, d]⟩ cs) := by
  obtain ⟨noBlank, _⟩ := scan_pairing pairs cs
  have once (apart : (cs.dropWhile isBlank).head? ≠ some d) :
      CutsOff (d :: cs) (⟨alone, String.ofList [d]⟩, cs) := by
    rw [← head?_ink] at apart
    exact ⟨[d], rfl, .once pairs apart, by rw [ink_cons noBlank]; rfl⟩
  unfold scanDouble
  split <;> rename_i eq
  · split
    · rename_i rest same
      subst same
      obtain ⟨gap, rfl, blank, _⟩ := exists_gap eq
      exact ⟨_ :: (gap ++ [_]), by simp, .twice pairs blank, by rw [ink_pair noBlank blank]⟩
    · rename_i differs
      exact once (by rw [eq]; simpa using differs)
  · exact once (by rw [eq]; nofun)

theorem cutsOff_scanSymbol {d : Char} (other : CharClass.of d = .other) (cs : List Char) :
    CutsOff (d :: cs) (scanSymbol d cs) := by
  unfold scanSymbol
  split_ifs with plus minus opening closing star slash
  · exact plus ▸ cutsOff_single (by decide) cs
  · exact minus ▸ cutsOff_single (by decide) cs
  · exact opening ▸ cutsOff_single (by decide) cs
  · exact closing ▸ cutsOff_single (by decide) cs
  · exact star ▸ cutsOff_scanDouble (by decide) cs
  · exact slash ▸ cutsOff_scanDouble (by decide) cs
  · have noBlank := isBlank_eq_false_of_other other
    have noSymbol : d ∉ ['+', '-', '*', '/', '(', ')'] := by
      simp [plus, minus, opening, closing, star, slash]
    exact ⟨[d], rfl, .stray other noSymbol, by rw [ink_cons noBlank]; rfl⟩

theorem cutsOff_scan {d : Char} (noBlank : isBlank d = false) (cs : List Char) :
    CutsOff (d :: cs) (scan d cs) := by
  unfold scan
  split <;> rename_i kind
  · exact cutsOff_scanNumber (of_eq_digit_iff.mp kind) cs
  · exact cutsOff_scanWord kind cs
  · exact cutsOff_scanSymbol kind cs
  · exact of_eq_decimalPoint_iff.mp kind ▸ cutsOff_single (by decide) cs
  · cases noBlank.symm.trans (of_eq_blank_iff.mp kind)
  · exact absurd kind (CharClass.of_ne_endOfInput d)

theorem cut_lexed (cs : List Char) : Cut cs (lexed cs) := by
  induction cs using lexed.induct with
  | case1 cs blank =>
    rw [lexed_of_end blank]
    exact .nil (List.dropWhile_eq_nil_iff.mp blank)
  | case2 cs d rest eq ih =>
    rw [lexed_of_cons eq]
    obtain ⟨gap, rfl, blank, noBlank⟩ := exists_gap eq
    obtain ⟨range, split, lexeme, text⟩ := cutsOff_scan noBlank rest
    rw [split]
    exact .cons blank lexeme text ih

theorem Cut.lexed_eq {cs : List Char} {ts : List Token} (cut : Cut cs ts) : lexed cs = ts := by
  induction cut with
  | nil blank => exact lexed_of_end (List.dropWhile_eq_nil_iff.mpr blank)
  | @cons gap range rest t ts blank lexeme text others ih =>
    obtain ⟨d, later, rfl, noBlank, scanned⟩ := lexeme.scan_eq
    have skip : (gap ++ (d :: later ++ rest)).dropWhile isBlank = d :: (later ++ rest) := by
      rw [List.dropWhile_append_of_pos blank, List.cons_append,
        List.dropWhile_cons_of_neg (by simp [noBlank])]
    rw [lexed_of_cons skip, scanned, ← text, ih]

theorem Cut.behind_gap {gap cs : List Char} {ts : List Token} (cut : Cut cs ts)
    (isGap : AreBlank gap) : Cut (gap ++ cs) ts := by
  cases cut with
  | nil blank => exact .nil (List.forall_mem_append.mpr ⟨isGap, blank⟩)
  | cons blank lexeme text others =>
    rw [← List.append_assoc]
    exact .cons (List.forall_mem_append.mpr ⟨isGap, blank⟩) lexeme text others

theorem Cut.ink_eq {cs : List Char} {ts : List Token} (cut : Cut cs ts) :
    ink cs = ts.flatMap (·.text.toList) := by
  induction cut with
  | nil blank => rw [ink_eq_nil_iff.mpr blank, List.flatMap_nil]
  | cons blank lexeme text others ih =>
    rw [ink_append, ink_append, ink_eq_nil_iff.mpr blank, ih, List.nil_append, List.flatMap_cons,
      text, String.toList_ofList]

theorem cut_tokens (input : String) : Cut (lowercase input) (tokens input) := by
  rw [tokens_eq_lexed]
  exact cut_lexed (lowercase input)

theorem Cut.tokens_eq {input : String} {ts : List Token} (cut : Cut (lowercase input) ts) :
    tokens input = ts :=
  (tokens_eq_lexed input).trans cut.lexed_eq

theorem Lexeme.isNumeral {kind : TokenKind} {range rest : List Char}
    (lexeme : Lexeme kind range rest) (number : kind = .number) :
    IsNumeral range ∧ ink range = range := by
  cases lexeme with
  | whole nonempty areDigits noDigit noPoint =>
    exact ⟨.whole nonempty areDigits, ink_of_areDigits areDigits⟩
  | decimal nonempty areDigits fraction ends =>
    exact ⟨.point nonempty areDigits fraction, ink_decimal areDigits fraction⟩
  | single isSingle => simp [singles, number] at isSingle
  | function f => cases f <;> cases number
  | word | stray => cases number
  | twice pairs | once pairs => simp [pairings, number] at pairs

theorem Cut.isNumeral {cs : List Char} {ts : List Token} (cut : Cut cs ts) {t : Token}
    (member : t ∈ ts) (number : t.kind = .number) : IsNumeral t.text.toList := by
  induction cut with
  | nil => cases member
  | cons blank lexeme text others ih =>
    rcases List.mem_cons.mp member with rfl | later
    · obtain ⟨numeral, kept⟩ := lexeme.isNumeral number
      rwa [text, String.toList_ofList, kept]
    · exact ih later

theorem exists_value_of_mem_tokens {input : String} {t : Token} (member : t ∈ tokens input)
    (number : t.kind = .number) :
    ∃ bits ≤ Binary64.infinityBits, readFloat t.text = .ok (Binary64.toFloat false bits) := by
  have value := ((cut_tokens input).isNumeral member number).exists_value
  rwa [String.ofList_toList] at value

/-- The tokens of an input are the only ones that its characters in small letters can be cut
into. -/
theorem tokens_eq_iff_cut (input : String) (ts : List Token) :
    tokens input = ts ↔ Cut (lowercase input) ts := by
  constructor
  · rintro rfl
    exact cut_tokens input
  · exact Cut.tokens_eq

end SurfaceLang.Lexing
