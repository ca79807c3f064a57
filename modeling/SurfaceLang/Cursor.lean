import SurfaceLang.Report
import SurfaceLang.Text.Alphabetic
import SurfaceLang.Text.Lowercase

namespace SurfaceLang

inductive CharClass where
  | letter
  | digit
  | decimalPoint
  | blank
  | other
  | endOfInput
  deriving DecidableEq, Repr

def CharClass.of (c : Char) : CharClass :=
  if c = '.' then .decimalPoint
  else if c.isDigit then .digit
  else if Text.isBlank c then .blank
  else if Text.isAlphabetic c then .letter
  else .other

theorem CharClass.of_ne_endOfInput (c : Char) : CharClass.of c ≠ .endOfInput := by
  unfold CharClass.of
  repeat' split
  all_goals exact nofun

structure Place where
  position : Nat
  rest : List Char
  deriving DecidableEq, Repr

def Place.pastBlanks (p : Place) : Place where
  position := p.position + (p.rest.takeWhile Text.isBlank).length
  rest := p.rest.dropWhile Text.isBlank

/-- `mark` is where the last reading began, `atEnd` says that it met the end of the input, and
`afterBlank` that it passed over a blank. -/
structure Cursor where
  here : Place
  mark : Place
  atEnd : Bool
  afterBlank : Bool
  log : List LogRecord
  deriving DecidableEq, Repr

namespace Cursor

def start (place : Place) : Cursor where
  here := place
  mark := place
  atEnd := false
  afterBlank := false
  log := []

def ofInput (input : String) : Cursor :=
  start ⟨0, Text.lowercase input⟩

def read (c : Cursor) : (CharClass × Char) × Cursor :=
  match c.here.pastBlanks with
  | ⟨position, []⟩ =>
    ((.endOfInput, '\x00'),
      ⟨⟨position, []⟩, c.here, true, decide (c.here.position < position), c.log⟩)
  | ⟨position, found :: rest⟩ =>
    ((.of found, found),
      ⟨⟨position + 1, rest⟩, c.here, false, decide (c.here.position < position), c.log⟩)

def nothingToUnread : LogRecord :=
  ⟨.warn, "CharStream: cannot unread before the first character"⟩

/-- Takes the last reading back, unless it met the end of the input. -/
def unread (c : Cursor) : Cursor :=
  if c.atEnd then c
  else if c.here.position = 0 then { c with log := c.log ++ [nothingToUnread] }
  else { c with here := c.mark }

theorem length_pastBlanks_le (p : Place) : p.pastBlanks.rest.length ≤ p.rest.length :=
  (List.dropWhile_sublist _).length_le

theorem mark_read (c : Cursor) : c.read.2.mark = c.here := by
  unfold read
  split <;> rfl

theorem atEnd_read (c : Cursor) : c.read.2.atEnd = true ↔ c.read.1.1 = .endOfInput := by
  unfold read
  split <;> simp [CharClass.of_ne_endOfInput]

theorem length_read_le (c : Cursor) : c.read.2.here.rest.length ≤ c.here.rest.length := by
  have bound := length_pastBlanks_le c.here
  unfold read
  split <;> rename_i eq <;> rw [eq] at bound
  · exact bound
  · exact Nat.le_of_succ_le bound

theorem length_read_lt (c : Cursor) (more : c.read.2.atEnd = false) :
    c.read.2.here.rest.length < c.here.rest.length := by
  have bound := length_pastBlanks_le c.here
  unfold read at more ⊢
  split at more <;> rename_i eq <;> rw [eq] at bound
  · cases more
  · exact bound

theorem length_unread_read_le (c : Cursor) :
    c.read.2.unread.here.rest.length ≤ c.here.rest.length := by
  unfold unread
  split
  · exact length_read_le c
  · split
    · exact length_read_le c
    · exact Nat.le_of_eq (congrArg (fun p => p.rest.length) (mark_read c))

end Cursor

end SurfaceLang
