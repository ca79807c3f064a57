import SurfaceLang.Cursor
import SurfaceLang.Token

namespace SurfaceLang

namespace Cursor

/-- The next character, if it is of the class `wanted` and no blank stands before it; otherwise the
reading is taken back. -/
def continue? (wanted : CharClass) (c : Cursor) : Option Char × Cursor :=
  let (found, next) := c.read
  if found.1 = wanted ∧ next.afterBlank = false ∧ next.atEnd = false then (some found.2, next)
  else (none, next.unread)

theorem length_continue?_le (wanted : CharClass) (c : Cursor) :
    (c.continue? wanted).2.here.rest.length ≤ c.here.rest.length := by
  unfold continue?
  dsimp only
  split
  · exact length_read_le c
  · exact length_unread_read_le c

theorem length_continue?_lt (wanted : CharClass) (c : Cursor)
    (found : (c.continue? wanted).1.isSome) :
    (c.continue? wanted).2.here.rest.length < c.here.rest.length := by
  unfold continue? at found ⊢
  dsimp only at found ⊢
  split <;> rename_i reached
  · exact length_read_lt c reached.2.2
  · rw [if_neg reached] at found
    cases found

def readRun (wanted : CharClass) (c : Cursor) : List Char × Cursor :=
  match _h : c.continue? wanted with
  | (none, next) => ([], next)
  | (some ch, next) =>
    let (run, last) := next.readRun wanted
    (ch :: run, last)
termination_by c.here.rest.length
decreasing_by simpa [_h] using length_continue?_lt wanted c (by simp [_h])

theorem length_readRun_le (wanted : CharClass) (c : Cursor) :
    (c.readRun wanted).2.here.rest.length ≤ c.here.rest.length := by
  fun_induction readRun wanted c with
  | case1 c next h => simpa [h] using length_continue?_le wanted c
  | case2 c ch next h run last eq ih =>
    have step := length_continue?_le wanted c
    simp only [h, eq] at step ih ⊢
    omega

def followedBy (wanted : Char) (c : Cursor) : Bool × Cursor :=
  let (found, next) := c.read
  if found.2 = wanted then (true, next) else (false, next.unread)

theorem length_followedBy_le (wanted : Char) (c : Cursor) :
    (c.followedBy wanted).2.here.rest.length ≤ c.here.rest.length := by
  unfold followedBy
  dsimp only
  split
  · exact length_read_le c
  · exact length_unread_read_le c

def readNumber (first : Char) (c : Cursor) : Token × Cursor :=
  let (whole, c) := c.readRun .digit
  match c.continue? .decimalPoint with
  | (none, c) => (⟨.number, String.ofList (first :: whole)⟩, c)
  | (some point, c) =>
    let (places, c) := c.readRun .digit
    (⟨.number, String.ofList (first :: whole ++ point :: places)⟩, c)

def wordKind (word : String) : TokenKind :=
  if word = "sin" then .sin
  else if word = "cos" then .cos
  else if word = "tan" then .tan
  else .unknown

def readWord (first : Char) (c : Cursor) : Token × Cursor :=
  if first = 'x' then (⟨.varX, "x"⟩, c)
  else if first = 'y' then (⟨.varY, "y"⟩, c)
  else
    let (letters, c) := c.readRun .letter
    let word := String.ofList (first :: letters)
    (⟨wordKind word, word⟩, c)

def readSymbol (first : Char) (c : Cursor) : Token × Cursor :=
  if first = '+' then (⟨.plus, "+"⟩, c)
  else if first = '-' then (⟨.minus, "-"⟩, c)
  else if first = '(' then (⟨.openParen, "("⟩, c)
  else if first = ')' then (⟨.closeParen, ")"⟩, c)
  else if first = '*' then
    match c.followedBy '*' with
    | (true, c) => (⟨.power, "**"⟩, c)
    | (false, c) => (⟨.times, "*"⟩, c)
  else if first = '/' then
    match c.followedBy '/' with
    | (true, c) => (⟨.root, "//"⟩, c)
    | (false, c) => (⟨.divide, "/"⟩, c)
  else (⟨.unknown, first.toString⟩, c)

def readToken (kind : CharClass) (first : Char) (c : Cursor) : Token × Cursor :=
  match kind with
  | .endOfInput => (Token.endOfInput, c)
  | .digit => c.readNumber first
  | .letter => c.readWord first
  | .other => c.readSymbol first
  | .decimalPoint | .blank => (⟨.unknown, first.toString⟩, c)

def nextToken (c : Cursor) : Token × Cursor :=
  let (found, next) := c.read
  next.readToken found.1 found.2

theorem length_readNumber_le (first : Char) (c : Cursor) :
    (c.readNumber first).2.here.rest.length ≤ c.here.rest.length := by
  have whole := length_readRun_le .digit c
  have point := length_continue?_le .decimalPoint (c.readRun .digit).2
  unfold readNumber
  dsimp only
  split <;> rename_i eq <;> rw [eq] at point
  · exact Nat.le_trans point whole
  · exact Nat.le_trans (length_readRun_le .digit _) (Nat.le_trans point whole)

theorem length_readWord_le (first : Char) (c : Cursor) :
    (c.readWord first).2.here.rest.length ≤ c.here.rest.length := by
  unfold readWord
  split
  · exact Nat.le_refl _
  · split
    · exact Nat.le_refl _
    · exact length_readRun_le .letter c

theorem length_readSymbol_le (first : Char) (c : Cursor) :
    (c.readSymbol first).2.here.rest.length ≤ c.here.rest.length := by
  have star := length_followedBy_le '*' c
  have slash := length_followedBy_le '/' c
  unfold readSymbol
  repeat' split
  all_goals simp_all

theorem length_readToken_le (kind : CharClass) (first : Char) (c : Cursor) :
    (c.readToken kind first).2.here.rest.length ≤ c.here.rest.length := by
  cases kind with
  | digit => exact length_readNumber_le first c
  | letter => exact length_readWord_le first c
  | other => exact length_readSymbol_le first c
  | endOfInput | decimalPoint | blank => exact Nat.le_refl _

theorem length_nextToken_lt (c : Cursor) (more : c.nextToken.1.kind ≠ .endOfInput) :
    c.nextToken.2.here.rest.length < c.here.rest.length := by
  have reached : c.read.2.atEnd = false := by
    cases ends : c.read.2.atEnd with
    | false => rfl
    | true =>
      refine absurd ?_ more
      simp [nextToken, (atEnd_read c).mp ends, readToken, Token.endOfInput]
  exact Nat.lt_of_le_of_lt (length_readToken_le _ _ _) (length_read_lt c reached)

end Cursor

/-- A stream of tokens. Once `finished`, `next` yields no more. -/
structure Lexer where
  cursor : Cursor
  finished : Bool
  deriving DecidableEq, Repr

namespace Lexer

def ofInput (input : String) : Lexer :=
  ⟨.ofInput input, false⟩

def nextToken (l : Lexer) : Token × Lexer :=
  let (t, cursor) := l.cursor.nextToken
  (t, ⟨cursor, l.finished⟩)

def next (l : Lexer) : Option Token × Lexer :=
  if l.finished then (none, l)
  else
    let (t, l) := l.nextToken
    if t.kind = .endOfInput then (none, ⟨l.cursor, true⟩) else (some t, l)

theorem length_next_lt (l : Lexer) (found : l.next.1.isSome) :
    l.next.2.cursor.here.rest.length < l.cursor.here.rest.length := by
  unfold next at found ⊢
  dsimp only at found ⊢
  split at found
  · cases found
  · split at found <;> rename_i going more
    · cases found
    · rw [if_neg going, if_neg more]
      exact Cursor.length_nextToken_lt l.cursor more

def drain (l : Lexer) : List Token × Lexer :=
  match _h : l.next with
  | (none, last) => ([], last)
  | (some t, later) =>
    let (rest, last) := later.drain
    (t :: rest, last)
termination_by l.cursor.here.rest.length
decreasing_by simpa [_h] using length_next_lt l (by simp [_h])

end Lexer

def tokens (input : String) : List Token :=
  (Lexer.ofInput input).drain.1

end SurfaceLang
