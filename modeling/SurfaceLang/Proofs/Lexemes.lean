import SurfaceLang.Proofs.Grammar
import SurfaceLang.Proofs.Lexing
import SurfaceLang.Proofs.Lowercase
import SurfaceLang.Proofs.Numerals

namespace SurfaceLang.Lexing

open Text Grammar

theorem lexed_nil : lexed [] = [] :=
  lexed_of_end rfl

theorem lexed_blank {b : Char} (blank : isBlank b = true) (cs : List Char) :
    lexed (b :: cs) = lexed cs := by
  have skip : (b :: cs).dropWhile isBlank = cs.dropWhile isBlank := List.dropWhile_cons_of_pos blank
  cases eq : cs.dropWhile isBlank with
  | nil => rw [lexed_of_end (skip.trans eq), lexed_of_end eq]
  | cons d rest => rw [lexed_of_cons (skip.trans eq), lexed_of_cons eq]

theorem lexed_cons {d : Char} (ink : isBlank d = false) (cs : List Char) :
    lexed (d :: cs) = (scan d cs).1 :: lexed (scan d cs).2 := by
  have skip : (d :: cs).dropWhile isBlank = d :: cs := by simp [ink]
  exact lexed_of_cons skip

theorem lexed_space (cs : List Char) : lexed (' ' :: cs) = lexed cs :=
  lexed_blank (by decide) cs

/-- The tokens of a single character, whatever stands behind it. -/
def singles : List (TokenKind × Char) :=
  [(.varX, 'x'), (.varY, 'y'), (.plus, '+'), (.minus, '-'), (.openParen, '('), (.closeParen, ')'),
    (.unknown, '.')]

/-- The characters that are one token when alone and another one in pairs. -/
def pairings : List (Char × TokenKind × TokenKind) :=
  [('*', .times, .power), ('/', .divide, .root)]

theorem pairing_cases {c : Char} {alone pair : TokenKind} (pairs : (c, alone, pair) ∈ pairings) :
    c = '*' ∧ alone = .times ∧ pair = .power ∨ c = '/' ∧ alone = .divide ∧ pair = .root := by
  simpa [pairings] using pairs

theorem scan_single {kind : TokenKind} {c : Char} (isSingle : (kind, c) ∈ singles)
    (rest : List Char) :
    isBlank c = false ∧ scan c rest = (⟨kind, String.ofList [c]⟩, rest) := by
  simp only [singles, List.mem_cons, Prod.mk.injEq, List.not_mem_nil, or_false] at isSingle
  rcases isSingle with ⟨rfl, rfl⟩ | ⟨rfl, rfl⟩ | ⟨rfl, rfl⟩ | ⟨rfl, rfl⟩ | ⟨rfl, rfl⟩ | ⟨rfl, rfl⟩ |
    ⟨rfl, rfl⟩ <;> exact ⟨by decide, rfl⟩

theorem scan_pairing {c : Char} {alone pair : TokenKind} (pairs : (c, alone, pair) ∈ pairings)
    (rest : List Char) :
    isBlank c = false ∧ scan c rest =
      scanDouble c ⟨alone, String.ofList [c]⟩ ⟨pair, String.ofList [c, c]⟩ rest := by
  rcases pairing_cases pairs with ⟨rfl, rfl, rfl⟩ | ⟨rfl, rfl, rfl⟩ <;> exact ⟨by decide, rfl⟩

theorem lexed_single (kind : TokenKind) (c : Char) (isSingle : (kind, c) ∈ singles)
    (cs : List Char) : lexed (c :: cs) = ⟨kind, String.ofList [c]⟩ :: lexed cs := by
  obtain ⟨noBlank, scanned⟩ := scan_single isSingle cs
  rw [lexed_cons noBlank, scanned]

theorem scanDouble_of_ne {d : Char} {cs : List Char}
    (apart : ∀ c ∈ (cs.dropWhile isBlank).head?, c ≠ d) (single double : Token) :
    scanDouble d single double cs = (single, cs) := by
  unfold scanDouble
  split <;> rename_i eq
  · rw [if_neg (apart _ (by simp [eq]))]
  · rfl

theorem lexed_once (c : Char) (alone pair : TokenKind) (pairs : (c, alone, pair) ∈ pairings)
    {cs : List Char} (apart : ∀ d ∈ (cs.dropWhile isBlank).head?, d ≠ c) :
    lexed (c :: cs) = ⟨alone, String.ofList [c]⟩ :: lexed cs := by
  obtain ⟨noBlank, scanned⟩ := scan_pairing pairs cs
  rw [lexed_cons noBlank, scanned, scanDouble_of_ne apart]

theorem lexed_twice (c : Char) (alone pair : TokenKind) (pairs : (c, alone, pair) ∈ pairings)
    (cs : List Char) : lexed (c :: c :: cs) = ⟨pair, String.ofList [c, c]⟩ :: lexed cs := by
  obtain ⟨noBlank, scanned⟩ := scan_pairing pairs (c :: cs)
  have skip : (c :: cs).dropWhile isBlank = c :: cs :=
    List.dropWhile_cons_of_neg (by simp [noBlank])
  rw [lexed_cons noBlank, scanned, scanDouble]
  simp only [skip, if_true]

def Ends (kind : CharClass) (rest : List Char) : Prop :=
  ∀ c ∈ rest.head?, CharClass.of c ≠ kind

theorem ends_cons {kind : CharClass} {c : Char} {rest : List Char} :
    Ends kind (c :: rest) ↔ CharClass.of c ≠ kind := by
  simp [Ends]

theorem run_append {wanted : CharClass} {cs rest : List Char}
    (inside : ∀ c ∈ cs, CharClass.of c = wanted) (boundary : Ends wanted rest) :
    run wanted (cs ++ rest) = (cs, rest) := by
  have all : ∀ c ∈ cs, decide (CharClass.of c = wanted) = true := by simpa using inside
  unfold run
  rw [List.takeWhile_append_of_pos all, List.dropWhile_append_of_pos all]
  cases rest with
  | nil => simp
  | cons c rest => simp [ends_cons.mp boundary]

def NumberEnds (rest : List Char) : Prop :=
  ∀ c ∈ rest.head?, c.isDigit = false ∧ c ≠ '.'

theorem NumberEnds.noDigit {rest : List Char} (ends : NumberEnds rest) : Ends .digit rest := by
  intro c member kind
  have noDigit := (ends c member).1
  rw [of_eq_digit_iff.mp kind] at noDigit
  cases noDigit

theorem NumberEnds.noPoint {rest : List Char} (ends : NumberEnds rest) :
    Ends .decimalPoint rest :=
  fun c member kind => (ends c member).2 (of_eq_decimalPoint_iff.mp kind)

theorem run_digits {cs rest : List Char} (digits : AreDigits cs) (ends : Ends .digit rest) :
    run .digit (cs ++ rest) = (cs, rest) :=
  run_append (fun c member => of_eq_digit_iff.mpr (digits c member)) ends

theorem scan_of_isDigit {d : Char} (digit : d.isDigit = true) (cs : List Char) :
    scan d cs = scanNumber d cs := by
  simp only [scan, of_eq_digit_iff.mpr digit]

theorem scan_whole {d : Char} {cs rest : List Char} (digits : AreDigits (d :: cs))
    (noDigit : Ends .digit rest) (noPoint : Ends .decimalPoint rest) :
    scan d (cs ++ rest) = (⟨.number, String.ofList (d :: cs)⟩, rest) := by
  obtain ⟨digit, later⟩ := List.forall_mem_cons.mp digits
  rw [scan_of_isDigit digit]
  unfold scanNumber
  simp only [run_digits later noDigit]
  split
  · exact absurd rfl (ends_cons.mp noPoint)
  · rfl

theorem scan_decimal {d : Char} {cs places rest : List Char} (digits : AreDigits (d :: cs))
    (fraction : AreDigits places) (ends : Ends .digit rest) :
    scan d (cs ++ '.' :: (places ++ rest)) =
      (⟨.number, String.ofList (d :: cs ++ '.' :: places)⟩, rest) := by
  obtain ⟨digit, later⟩ := List.forall_mem_cons.mp digits
  have point : run .digit (cs ++ '.' :: (places ++ rest)) = (cs, '.' :: (places ++ rest)) :=
    run_digits later (ends_cons.mpr nofun)
  rw [scan_of_isDigit digit]
  simp only [scanNumber, point, run_digits fraction ends]

theorem lexed_numeral {cs rest : List Char} (numeral : IsNumeral cs) (ends : NumberEnds rest) :
    lexed (cs ++ rest) = ⟨.number, String.ofList cs⟩ :: lexed rest := by
  cases numeral with
  | whole nonempty digits =>
    obtain ⟨d, later, rfl⟩ := List.exists_cons_of_ne_nil nonempty
    have ink := isBlank_eq_false_of_isDigit (digits d List.mem_cons_self)
    rw [List.cons_append, lexed_cons ink, scan_whole digits ends.noDigit ends.noPoint]
  | point nonempty digits fraction =>
    obtain ⟨d, later, rfl⟩ := List.exists_cons_of_ne_nil nonempty
    have ink := isBlank_eq_false_of_isDigit (digits d List.mem_cons_self)
    have scanned := scan_decimal digits fraction ends.noDigit
    rw [List.append_assoc, List.cons_append, List.cons_append, lexed_cons ink, scanned]

theorem isBlank_eq_false_of_ne {c : Char} (noBlank : CharClass.of c ≠ .blank) :
    isBlank c = false := by
  cases blank : isBlank c with
  | false => rfl
  | true => exact absurd (of_eq_blank_iff.mpr blank) noBlank

theorem isBlank_eq_false_of_letter {c : Char} (letter : CharClass.of c = .letter) :
    isBlank c = false :=
  isBlank_eq_false_of_ne (by rw [letter]; nofun)

theorem scan_word {d : Char} {cs rest : List Char}
    (letters : ∀ c ∈ d :: cs, CharClass.of c = .letter) (noVar : d ≠ 'x' ∧ d ≠ 'y')
    (ends : Ends .letter rest) :
    scan d (cs ++ rest) =
      (⟨Cursor.wordKind (String.ofList (d :: cs)), String.ofList (d :: cs)⟩, rest) := by
  obtain ⟨letter, later⟩ := List.forall_mem_cons.mp letters
  simp only [scan, letter, scanWord, noVar, if_false, run_append later ends]

def functionToken : Function → Token
  | .sin => ⟨.sin, "sin"⟩
  | .cos => ⟨.cos, "cos"⟩
  | .tan => ⟨.tan, "tan"⟩

theorem exists_name_eq_cons (f : Function) : ∃ d cs, f.name.toList = d :: cs := by
  cases f <;> exact ⟨_, _, rfl⟩

theorem areLetters_name (f : Function) : ∀ c ∈ f.name.toList, CharClass.of c = .letter := by
  have letters : f.name.toList.all (CharClass.of · == .letter) = true := by cases f <;> decide
  simpa using letters

theorem scan_function (f : Function) {d : Char} {cs rest : List Char}
    (name : f.name.toList = d :: cs) (ends : Ends .letter rest) :
    isBlank d = false ∧ scan d (cs ++ rest) = (functionToken f, rest) := by
  have letters := areLetters_name f
  rw [name] at letters
  have noVar : d ≠ 'x' ∧ d ≠ 'y' := by
    cases f <;> cases name <;> decide
  have kind : (⟨Cursor.wordKind f.name, f.name⟩ : Token) = functionToken f := by
    cases f <;> decide
  refine ⟨isBlank_eq_false_of_letter (letters d List.mem_cons_self), ?_⟩
  rw [scan_word letters noVar ends, ← name, String.ofList_toList, kind]

theorem lexed_function (f : Function) {rest : List Char} (ends : Ends .letter rest) :
    lexed (f.name.toList ++ rest) = functionToken f :: lexed rest := by
  obtain ⟨d, cs, name⟩ := exists_name_eq_cons f
  obtain ⟨ink, scanned⟩ := scan_function f name ends
  rw [name, List.cons_append, lexed_cons ink, scanned]

/-- An ASCII character that is no capital. -/
def isPlain (c : Char) : Bool :=
  decide (c.toNat < 0x41) || decide (0x5a < c.toNat) && decide (c.toNat < 0x80)

theorem isPlain_of_isDigit {c : Char} (digit : c.isDigit = true) : isPlain c = true := by
  obtain ⟨_, high⟩ := toNat_of_isDigit digit
  have below : c.toNat < 0x41 := by omega
  simp [isPlain, below]

theorem smallCode_of_isPlain {c : Char} (plain : isPlain c = true) :
    smallCode c.toNat caseRuns = c.toNat := by
  simp only [isPlain, Bool.or_eq_true, Bool.and_eq_true, decide_eq_true_eq] at plain
  unfold caseRuns smallCode
  dsimp only
  rcases plain with below | ⟨above, ascii⟩
  · rw [if_pos below]
  · unfold smallCode
    rw [if_neg (by omega), if_neg (by omega)]
    exact if_pos (Nat.lt_trans ascii (by decide))

theorem smallAlone_of_isPlain {c : Char} (plain : isPlain c = true) : smallAlone c = [c] := by
  have noSigma : c ≠ 'Σ' := by
    rintro rfl
    revert plain
    decide
  have noDot : c ≠ 'İ' := by
    rintro rfl
    revert plain
    decide
  rw [smallAlone_of_ne noSigma noDot, small, smallCode_of_isPlain plain, Char.ofNat_toNat]

theorem lowercaseAfter_of_isPlain {cs : List Char} (plain : cs.all isPlain = true)
    (behind : Bool) : lowercaseAfter behind cs = cs :=
  (lowercaseAfter_eq_self_iff behind).mpr fun c member =>
    smallAlone_of_isPlain (List.all_eq_true.mp plain c member)

theorem tokens_of_isPlain {input : String} (plain : input.toList.all isPlain = true) :
    tokens input = lexed input.toList := by
  rw [tokens_eq_lexed, lowercase, lowercaseAfter_of_isPlain plain]

end SurfaceLang.Lexing
