import SurfaceLang.Token.Lexer

namespace SurfaceLang.Lexing

open Text

def run (wanted : CharClass) (cs : List Char) : List Char × List Char :=
  (cs.takeWhile (CharClass.of · = wanted), cs.dropWhile (CharClass.of · = wanted))

def scanNumber (d : Char) (cs : List Char) : Token × List Char :=
  let (whole, rest) := run .digit cs
  match rest with
  | '.' :: rest =>
    let (places, rest) := run .digit rest
    (⟨.number, String.ofList (d :: whole ++ '.' :: places)⟩, rest)
  | rest => (⟨.number, String.ofList (d :: whole)⟩, rest)

def scanWord (d : Char) (cs : List Char) : Token × List Char :=
  if d = 'x' then (⟨.varX, "x"⟩, cs)
  else if d = 'y' then (⟨.varY, "y"⟩, cs)
  else
    let (letters, rest) := run .letter cs
    let word := String.ofList (d :: letters)
    (⟨Cursor.wordKind word, word⟩, rest)

/-- The operator of two characters `d`, if a second one follows, and else the one of a single
character. -/
def scanDouble (d : Char) (single double : Token) (cs : List Char) : Token × List Char :=
  match cs.dropWhile isBlank with
  | found :: rest => if found = d then (double, rest) else (single, cs)
  | [] => (single, cs)

def scanSymbol (d : Char) (cs : List Char) : Token × List Char :=
  if d = '+' then (⟨.plus, "+"⟩, cs)
  else if d = '-' then (⟨.minus, "-"⟩, cs)
  else if d = '(' then (⟨.openParen, "("⟩, cs)
  else if d = ')' then (⟨.closeParen, ")"⟩, cs)
  else if d = '*' then scanDouble d ⟨.times, "*"⟩ ⟨.power, "**"⟩ cs
  else if d = '/' then scanDouble d ⟨.divide, "/"⟩ ⟨.root, "//"⟩ cs
  else (⟨.unknown, d.toString⟩, cs)

def scan (d : Char) (cs : List Char) : Token × List Char :=
  match CharClass.of d with
  | .digit => scanNumber d cs
  | .letter => scanWord d cs
  | .other => scanSymbol d cs
  | .decimalPoint | .blank | .endOfInput => (⟨.unknown, d.toString⟩, cs)

theorem length_run_le (wanted : CharClass) (cs : List Char) :
    (run wanted cs).2.length ≤ cs.length :=
  (List.dropWhile_sublist _).length_le

theorem length_scanNumber_le (d : Char) (cs : List Char) :
    (scanNumber d cs).2.length ≤ cs.length := by
  have whole := length_run_le .digit cs
  unfold scanNumber
  dsimp only
  split <;> rename_i eq
  · have places := length_run_le .digit ‹_›
    rw [eq, List.length_cons] at whole
    dsimp only
    omega
  · exact whole

theorem length_scanWord_le (d : Char) (cs : List Char) : (scanWord d cs).2.length ≤ cs.length := by
  unfold scanWord
  split
  · exact Nat.le_refl _
  · split
    · exact Nat.le_refl _
    · exact length_run_le .letter cs

theorem length_scanDouble_le (d : Char) (single double : Token) (cs : List Char) :
    (scanDouble d single double cs).2.length ≤ cs.length := by
  have shorter := (List.dropWhile_sublist isBlank (l := cs)).length_le
  unfold scanDouble
  split <;> rename_i eq
  · rw [eq, List.length_cons] at shorter
    split
    · exact Nat.le_of_succ_le shorter
    · exact Nat.le_refl _
  · exact Nat.le_refl _

theorem length_scanSymbol_le (d : Char) (cs : List Char) :
    (scanSymbol d cs).2.length ≤ cs.length := by
  have double := length_scanDouble_le d
  unfold scanSymbol
  repeat' split
  all_goals first | exact Nat.le_refl _ | exact double _ _ cs

theorem length_scan_le (d : Char) (cs : List Char) : (scan d cs).2.length ≤ cs.length := by
  unfold scan
  split
  · exact length_scanNumber_le d cs
  · exact length_scanWord_le d cs
  · exact length_scanSymbol_le d cs
  all_goals exact Nat.le_refl _

def lexed (cs : List Char) : List Token :=
  match _h : cs.dropWhile isBlank with
  | [] => []
  | d :: rest => (scan d rest).1 :: lexed (scan d rest).2
termination_by cs.length
decreasing_by
  have shorter := (List.dropWhile_sublist isBlank (l := cs)).length_le
  have scanned := length_scan_le d rest
  rw [_h, List.length_cons] at shorter
  omega

theorem lexed_of_end {cs : List Char} (blank : cs.dropWhile isBlank = []) : lexed cs = [] := by
  unfold lexed
  split
  · rfl
  · rename_i eq
    cases blank.symm.trans eq

theorem lexed_of_cons {cs rest : List Char} {d : Char} (eq : cs.dropWhile isBlank = d :: rest) :
    lexed cs = (scan d rest).1 :: lexed (scan d rest).2 := by
  rw [lexed]
  split <;> rename_i eq' <;> cases eq.symm.trans eq'
  rfl

/-- The cursor stands before `cs`, or it has passed over the blanks there and met the end. -/
def Before (c : Cursor) (cs : List Char) : Prop :=
  c.here.rest = cs ∨ c.here.rest = [] ∧ cs.dropWhile isBlank = []

theorem Before.dropWhile_eq {c : Cursor} {cs : List Char} (before : Before c cs) :
    c.here.rest.dropWhile isBlank = cs.dropWhile isBlank := by
  rcases before with rfl | ⟨rest, blank⟩
  · rfl
  · rw [rest, blank, List.dropWhile_nil]

theorem read_of_end {c : Cursor} (blank : c.here.rest.dropWhile isBlank = []) :
    ∃ after, c.read = ((.endOfInput, '\x00'), after) ∧ after.here.rest = [] ∧
      after.atEnd = true := by
  unfold Cursor.read Place.pastBlanks
  simp only [blank]
  exact ⟨_, rfl, rfl, rfl⟩

theorem read_of_cons {c : Cursor} {d : Char} {rest : List Char}
    (eq : c.here.rest.dropWhile isBlank = d :: rest) :
    ∃ after, c.read = ((.of d, d), after) ∧ after.here.rest = rest ∧ after.atEnd = false ∧
      after.unread.here = c.here ∧
      (after.afterBlank = false ↔ c.here.rest.takeWhile isBlank = []) := by
  unfold Cursor.read Place.pastBlanks
  simp only [eq]
  exact ⟨_, rfl, rfl, rfl, rfl, by simp⟩

theorem toNat_of_isDigit {d : Char} (digit : d.isDigit = true) : 48 ≤ d.toNat ∧ d.toNat ≤ 57 := by
  simp only [Char.isDigit, Bool.and_eq_true, decide_eq_true_eq, UInt32.le_iff_toNat_le] at digit
  exact digit

theorem isBlank_eq_false_of_isDigit {d : Char} (digit : d.isDigit = true) : isBlank d = false := by
  obtain ⟨low, high⟩ := toNat_of_isDigit digit
  simp only [isBlank, blankRanges, inRanges]
  have beyond : ¬ d.toNat < 9 ∧ ¬ d.toNat ≤ 13 ∧ ¬ d.toNat < 32 ∧ ¬ d.toNat ≤ 32 := by omega
  simp only [beyond, if_false, ite_eq_left_iff]
  omega

theorem of_eq_digit_iff {d : Char} : CharClass.of d = .digit ↔ d.isDigit = true := by
  unfold CharClass.of
  constructor
  · intro digit
    split at digit
    · cases digit
    · split at digit
      · assumption
      · split at digit
        · cases digit
        · split at digit <;> cases digit
  · intro digit
    have noPoint : d ≠ '.' := by
      rintro rfl
      cases digit
    rw [if_neg noPoint, if_pos digit]

theorem of_eq_blank_iff {d : Char} : CharClass.of d = .blank ↔ isBlank d = true := by
  by_cases point : d = '.'
  · subst point
    decide
  · by_cases digit : d.isDigit = true
    · simp [of_eq_digit_iff.mpr digit, isBlank_eq_false_of_isDigit digit]
    · unfold CharClass.of
      rw [if_neg point, if_neg digit]
      split <;> rename_i blank
      · simp [blank]
      · split <;> simp [blank]

theorem of_eq_decimalPoint_iff {d : Char} : CharClass.of d = .decimalPoint ↔ d = '.' := by
  constructor
  · intro point
    unfold CharClass.of at point
    split at point
    · assumption
    · repeat' split at point
      all_goals cases point
  · rintro rfl
    rfl

theorem Before.rest_eq {c : Cursor} {cs rest : List Char} {d : Char} (before : Before c cs)
    (eq : cs.dropWhile isBlank = d :: rest) : c.here.rest = cs := by
  rcases before with same | ⟨_, blank⟩
  · exact same
  · cases blank.symm.trans eq

theorem Before.continue?_of_cons {c : Cursor} {cs : List Char} {d : Char}
    (before : Before c (d :: cs)) (wanted : CharClass) (kind : CharClass.of d = wanted)
    (noBlank : wanted ≠ .blank) :
    ∃ after, c.continue? wanted = (some d, after) ∧ Before after cs := by
  have ink : isBlank d = false := by
    cases blank : isBlank d with
    | false => rfl
    | true => exact absurd (kind.symm.trans (of_eq_blank_iff.mpr blank)) noBlank
  have eq : (d :: cs).dropWhile isBlank = d :: cs := by simp [ink]
  have rest := before.rest_eq eq
  obtain ⟨after, read, here, notEnd, _, noSpace⟩ := read_of_cons (before.dropWhile_eq.trans eq)
  have directly : after.afterBlank = false := noSpace.mpr (by simp [rest, ink])
  exact ⟨after, by simp [Cursor.continue?, read, kind, directly, notEnd], .inl here⟩

theorem Before.continue?_of_head {c : Cursor} {cs : List Char} (before : Before c cs)
    (wanted : CharClass) (other : ∀ d ∈ cs.head?, CharClass.of d ≠ wanted) :
    ∃ after, c.continue? wanted = (none, after) ∧ Before after cs := by
  have skip := before.dropWhile_eq
  cases eq : cs.dropWhile isBlank with
  | nil =>
    obtain ⟨after, read, rest, atEnd⟩ := read_of_end (skip.trans eq)
    refine ⟨after, ?_, .inr ⟨rest, eq⟩⟩
    simp [Cursor.continue?, read, atEnd, Cursor.unread]
  | cons d later =>
    obtain ⟨after, read, _, _, back, noSpace⟩ := read_of_cons (skip.trans eq)
    have rest := before.rest_eq eq
    refine ⟨after.unread, ?_, .inl ((congrArg Place.rest back).trans rest)⟩
    -- A character of the class can still follow, but only behind a blank.
    have apart : CharClass.of d = wanted → after.afterBlank ≠ false := by
      intro kind directly
      have head : cs.takeWhile isBlank = [] := rest ▸ noSpace.mp directly
      have split := List.takeWhile_append_dropWhile (p := isBlank) (l := cs)
      rw [head, eq, List.nil_append] at split
      exact other d (by simp [← split]) kind
    simp only [Cursor.continue?, read]
    rw [if_neg fun found => apart found.1 found.2.1]

theorem Before.readRun {c : Cursor} {cs : List Char} (before : Before c cs)
    (wanted : CharClass) (noBlank : wanted ≠ .blank) :
    ∃ after, c.readRun wanted = ((run wanted cs).1, after) ∧ Before after (run wanted cs).2 := by
  induction cs generalizing c with
  | nil =>
    obtain ⟨after, stop, place⟩ := before.continue?_of_head wanted (by simp)
    refine ⟨after, ?_, place⟩
    rw [Cursor.readRun]
    split <;> rename_i eq <;> cases stop.symm.trans eq
    rfl
  | cons d cs ih =>
    by_cases kind : CharClass.of d = wanted
    · obtain ⟨next, found, place⟩ := before.continue?_of_cons wanted kind noBlank
      obtain ⟨after, later, last⟩ := ih place
      refine ⟨after, ?_, ?_⟩
      · rw [Cursor.readRun]
        split <;> rename_i eq <;> cases found.symm.trans eq
        simp [later, run, kind]
      · simpa [run, kind] using last
    · obtain ⟨after, stop, place⟩ := before.continue?_of_head wanted (by simpa using kind)
      refine ⟨after, ?_, by simpa [run, kind] using place⟩
      rw [Cursor.readRun]
      split <;> rename_i eq <;> cases stop.symm.trans eq
      simp [run, kind]

theorem Before.readNumber {c : Cursor} {cs : List Char} (before : Before c cs) (d : Char) :
    ∃ after, c.readNumber d = ((scanNumber d cs).1, after) ∧ Before after (scanNumber d cs).2 := by
  obtain ⟨middle, whole, place⟩ := before.readRun .digit nofun
  unfold Cursor.readNumber scanNumber
  simp only [whole]
  cases rest : (run .digit cs).2 with
  | nil =>
    rw [rest] at place
    obtain ⟨after, stop, last⟩ := place.continue?_of_head .decimalPoint (by simp)
    simp only [stop]
    exact ⟨after, rfl, last⟩
  | cons point later =>
    rw [rest] at place
    by_cases isPoint : point = '.'
    · subst isPoint
      obtain ⟨middle, found, place⟩ := place.continue?_of_cons .decimalPoint rfl nofun
      obtain ⟨after, places, last⟩ := place.readRun .digit nofun
      simp only [found, places]
      exact ⟨after, rfl, last⟩
    · have other : CharClass.of point ≠ .decimalPoint := mt of_eq_decimalPoint_iff.mp isPoint
      obtain ⟨after, stop, last⟩ := place.continue?_of_head .decimalPoint (by simpa using other)
      simp only [stop]
      split
      · rename_i eq
        exact absurd (List.cons.inj eq).1 isPoint
      · exact ⟨after, rfl, last⟩

theorem Before.readWord {c : Cursor} {cs : List Char} (before : Before c cs) (d : Char) :
    ∃ after, c.readWord d = ((scanWord d cs).1, after) ∧ Before after (scanWord d cs).2 := by
  unfold Cursor.readWord scanWord
  split
  · exact ⟨c, rfl, before⟩
  · split
    · exact ⟨c, rfl, before⟩
    · obtain ⟨after, letters, last⟩ := before.readRun .letter nofun
      simp only [letters]
      exact ⟨after, rfl, last⟩

theorem Before.followedBy {c : Cursor} {cs : List Char} (before : Before c cs) {d : Char}
    (notNul : d ≠ '\x00') (single double : Token) :
    ∃ found after, c.followedBy d = (found, after) ∧
      (if found then double else single) = (scanDouble d single double cs).1 ∧
      Before after (scanDouble d single double cs).2 := by
  have skip := before.dropWhile_eq
  unfold scanDouble
  cases eq : cs.dropWhile isBlank with
  | nil =>
    obtain ⟨after, read, rest, atEnd⟩ := read_of_end (skip.trans eq)
    refine ⟨false, after, ?_, rfl, .inr ⟨rest, eq⟩⟩
    simp only [Cursor.followedBy, read, if_neg notNul.symm]
    simp [Cursor.unread, atEnd]
  | cons first rest =>
    obtain ⟨after, read, here, _, back, _⟩ := read_of_cons (skip.trans eq)
    by_cases same : first = d
    · refine ⟨true, after, by simp [Cursor.followedBy, read, same], ?_, ?_⟩
      · simp [same]
      · simp only [same, if_true]
        exact .inl here
    · refine ⟨false, after.unread, by simp [Cursor.followedBy, read, same], ?_, ?_⟩
      · simp [same]
      · simp only [same, if_false]
        exact .inl ((congrArg Place.rest back).trans (before.rest_eq eq))

theorem Before.readSymbol {c : Cursor} {cs : List Char} (before : Before c cs) (d : Char) :
    ∃ after, c.readSymbol d = ((scanSymbol d cs).1, after) ∧ Before after (scanSymbol d cs).2 := by
  unfold Cursor.readSymbol scanSymbol
  split
  · exact ⟨c, rfl, before⟩
  · split
    · exact ⟨c, rfl, before⟩
    · split
      · exact ⟨c, rfl, before⟩
      · split
        · exact ⟨c, rfl, before⟩
        · split
          · rename_i star
            subst star
            obtain ⟨found, after, eq, token, last⟩ :=
              before.followedBy (d := '*') nofun ⟨.times, "*"⟩ ⟨.power, "**"⟩
            rw [eq, ← token]
            cases found <;> exact ⟨after, rfl, last⟩
          · split
            · rename_i slash
              subst slash
              obtain ⟨found, after, eq, token, last⟩ :=
                before.followedBy (d := '/') nofun ⟨.divide, "/"⟩ ⟨.root, "//"⟩
              rw [eq, ← token]
              cases found <;> exact ⟨after, rfl, last⟩
            · exact ⟨c, rfl, before⟩

theorem Before.readToken {c : Cursor} {cs : List Char} (before : Before c cs) (d : Char) :
    ∃ after, c.readToken (.of d) d = ((scan d cs).1, after) ∧ Before after (scan d cs).2 := by
  unfold Cursor.readToken scan
  cases kind : CharClass.of d with
  | digit => exact before.readNumber d
  | letter => exact before.readWord d
  | other => exact before.readSymbol d
  | decimalPoint | blank => exact ⟨c, rfl, before⟩
  | endOfInput => exact absurd kind (CharClass.of_ne_endOfInput d)

theorem Before.nextToken_of_end {c : Cursor} {cs : List Char} (before : Before c cs)
    (blank : cs.dropWhile isBlank = []) :
    ∃ after, c.nextToken = (Token.endOfInput, after) ∧ Before after cs := by
  obtain ⟨after, read, rest, _⟩ := read_of_end (before.dropWhile_eq.trans blank)
  exact ⟨after, by simp [Cursor.nextToken, read, Cursor.readToken], .inr ⟨rest, blank⟩⟩

theorem Before.nextToken_of_cons {c : Cursor} {cs rest : List Char} {d : Char}
    (before : Before c cs) (eq : cs.dropWhile isBlank = d :: rest) :
    ∃ after, c.nextToken = ((scan d rest).1, after) ∧ Before after (scan d rest).2 := by
  obtain ⟨next, read, here, _⟩ := read_of_cons (before.dropWhile_eq.trans eq)
  obtain ⟨after, token, last⟩ := Before.readToken (.inl here) d
  exact ⟨after, by simpa [Cursor.nextToken, read] using token, last⟩

theorem kind_scanDouble (d : Char) (single double : Token) (cs : List Char) :
    (scanDouble d single double cs).1 = single ∨ (scanDouble d single double cs).1 = double := by
  unfold scanDouble
  repeat' split
  all_goals simp

theorem kind_scan_ne_endOfInput (d : Char) (cs : List Char) :
    (scan d cs).1.kind ≠ .endOfInput := by
  unfold scan
  split
  · unfold scanNumber
    dsimp only
    split <;> exact nofun
  · unfold scanWord
    repeat' split
    · exact nofun
    · exact nofun
    · dsimp only [Cursor.wordKind]
      repeat' split
      all_goals exact nofun
  · have times := kind_scanDouble d ⟨.times, "*"⟩ ⟨.power, "**"⟩ cs
    have divide := kind_scanDouble d ⟨.divide, "/"⟩ ⟨.root, "//"⟩ cs
    unfold scanSymbol
    repeat' split
    · exact nofun
    · exact nofun
    · exact nofun
    · exact nofun
    · rcases times with eq | eq <;> simp [eq]
    · rcases divide with eq | eq <;> simp [eq]
    · exact nofun
  all_goals exact nofun

theorem drain_eq_lexed {l : Lexer} {cs : List Char} (going : l.finished = false)
    (before : Before l.cursor cs) : l.drain.1 = lexed cs := by
  -- Every token makes the text shorter; where it leaves the cursor is the invariant.
  induction length : cs.length using Nat.strongRecOn generalizing l cs with
  | ind n ih =>
    rw [Lexer.drain]
    cases eq : cs.dropWhile isBlank with
    | nil =>
      rw [lexed_of_end eq]
      obtain ⟨after, last, _⟩ := before.nextToken_of_end eq
      split <;> rename_i next
      · rfl
      · simp [Lexer.next, Lexer.nextToken, going, last, Token.endOfInput] at next
    | cons d rest =>
      obtain ⟨after, token, place⟩ := before.nextToken_of_cons eq
      have more := kind_scan_ne_endOfInput d rest
      have next : l.next = (some (scan d rest).1, ⟨after, false⟩) := by
        simp [Lexer.next, Lexer.nextToken, going, token, more]
      have shorter := (List.dropWhile_sublist isBlank (l := cs)).length_le
      have scanned := length_scan_le d rest
      rw [eq, List.length_cons] at shorter
      rw [lexed_of_cons eq]
      split <;> rename_i found <;> cases next.symm.trans found
      have others := ih _ (by omega) (l := ⟨after, false⟩) rfl place rfl
      rw [← others]

theorem tokens_eq_lexed (input : String) : tokens input = lexed (lowercase input) :=
  drain_eq_lexed rfl (.inl rfl)

end SurfaceLang.Lexing
