import SurfaceLang.Proofs.Cut

namespace SurfaceLang

open Text Lexing

inductive Call where
  | read
  | unread
  deriving DecidableEq, Repr

structure View where
  position : Nat
  afterBlank : Bool
  log : List LogRecord
  deriving DecidableEq, Repr

def trace {σ : Type} (answer : σ → Call → Option (CharClass × Char) × σ) (view : σ → View) :
    σ → List Call → List (Option (CharClass × Char) × View)
  | _, [] => []
  | s, call :: calls =>
    let (reply, next) := answer s call
    (reply, view next) :: trace answer view next calls

def Cursor.view (c : Cursor) : View :=
  ⟨c.here.position, c.afterBlank, c.log⟩

def Cursor.answer (c : Cursor) : Call → Option (CharClass × Char) × Cursor
  | .read => (some c.read.1, c.read.2)
  | .unread => (none, c.unread)

def inkPlaces (start : Nat) (cs : List Char) : List (Char × Nat) :=
  (cs.zipIdx start).filter (!isBlank ·.1)

/-- What became of the last reading. One that found a character keeps what has been read and the
position from before it. -/
inductive LastReading where
  | absent
  | character (count position : Nat)
  | takenBack
  | ended
  deriving DecidableEq, Repr

/-- `count` characters have been read, blanks left out. -/
structure Reader where
  count : Nat
  position : Nat
  afterBlank : Bool
  last : LastReading
  log : List LogRecord
  deriving DecidableEq, Repr

namespace Reader

def start : Reader where
  count := 0
  position := 0
  afterBlank := false
  last := .absent
  log := []

def view (r : Reader) : View :=
  ⟨r.position, r.afterBlank, r.log⟩

def read (cs : List Char) (r : Reader) : (CharClass × Char) × Reader :=
  match (inkPlaces 0 cs)[r.count]? with
  | some (found, place) =>
    ((.of found, found),
      ⟨r.count + 1, place + 1, decide (r.position < place), .character r.count r.position, r.log⟩)
  | none =>
    ((.endOfInput, '\x00'),
      ⟨r.count, cs.length, decide (r.position < cs.length), .ended, r.log⟩)

def takeBack (r : Reader) : Reader :=
  match r.last with
  | .character count position => { r with count, position, last := .takenBack }
  | _ => r

def unread (r : Reader) : Reader :=
  if r.position = 0 ∧ r.last ≠ .ended then
    { r.takeBack with log := r.log ++ [Cursor.nothingToUnread] }
  else r.takeBack

def answer (cs : List Char) (r : Reader) : Call → Option (CharClass × Char) × Reader
  | .read => (some (r.read cs).1, (r.read cs).2)
  | .unread => (none, r.unread)

end Reader

/-- Machines that are related, and stay so with the same answers, have the same traces. -/
theorem trace_eq_of_related {σ τ : Type} {answer : σ → Call → Option (CharClass × Char) × σ}
    {view : σ → View} {answer' : τ → Call → Option (CharClass × Char) × τ} {view' : τ → View}
    (Related : σ → τ → Prop) (seen : ∀ s t, Related s t → view s = view' t)
    (step : ∀ s t call, Related s t → (answer s call).1 = (answer' t call).1 ∧
      Related (answer s call).2 (answer' t call).2)
    (calls : List Call) {s : σ} {t : τ} (related : Related s t) :
    trace answer view s calls = trace answer' view' t calls := by
  induction calls generalizing s t with
  | nil => rfl
  | cons call calls ih =>
    obtain ⟨same, later⟩ := step s t call related
    simp only [trace, same, seen _ _ later, ih later]

theorem inkPlaces_append (start : Nat) (cs ds : List Char) :
    inkPlaces start (cs ++ ds) = inkPlaces start cs ++ inkPlaces (start + cs.length) ds := by
  rw [inkPlaces, List.zipIdx_append, List.filter_append]
  rfl

theorem inkPlaces_cons {c : Char} (noBlank : isBlank c = false) (start : Nat) (cs : List Char) :
    inkPlaces start (c :: cs) = (c, start) :: inkPlaces (start + 1) cs := by
  simp [inkPlaces, noBlank]

theorem map_inkPlaces (start : Nat) (cs : List Char) :
    (inkPlaces start cs).map (·.1) = ink cs := by
  induction cs generalizing start with
  | nil => rfl
  | cons c cs ih =>
    cases blank : isBlank c with
    | true => rw [ink_cons_of_blank blank, ← ih (start + 1)]; simp [inkPlaces, blank]
    | false => rw [ink_cons blank, inkPlaces_cons blank, List.map_cons, ih (start + 1)]

theorem length_inkPlaces (start : Nat) (cs : List Char) :
    (inkPlaces start cs).length = (ink cs).length := by
  rw [← map_inkPlaces start cs, List.length_map]

theorem inkPlaces_of_areBlank {cs : List Char} (blank : AreBlank cs) (start : Nat) :
    inkPlaces start cs = [] := by
  apply List.eq_nil_of_length_eq_zero
  rw [length_inkPlaces, ink_eq_nil_iff.mpr blank, List.length_nil]

theorem getElem?_inkPlaces (before rest : List Char) :
    (inkPlaces 0 (before ++ rest))[(ink before).length]? =
      (inkPlaces before.length rest).head? := by
  rw [inkPlaces_append, ← length_inkPlaces 0 before, List.getElem?_append_right (Nat.le_refl _),
    Nat.sub_self, Nat.zero_add, List.head?_eq_getElem?]

def At (cs : List Char) (place : Place) (count : Nat) : Prop :=
  ∃ before, cs = before ++ place.rest ∧ place.position = before.length ∧
    count = (ink before).length

theorem At.start (cs : List Char) : At cs ⟨0, cs⟩ 0 :=
  ⟨[], rfl, rfl, rfl⟩

theorem At.pastBlanks_of_end {cs : List Char} {place : Place} {count : Nat}
    (here : At cs place count) (blank : place.rest.dropWhile isBlank = []) :
    (inkPlaces 0 cs)[count]? = none ∧ place.pastBlanks = ⟨cs.length, []⟩ ∧
      At cs ⟨cs.length, []⟩ count := by
  obtain ⟨before, rfl, position, rfl⟩ := here
  have areBlank : AreBlank place.rest := List.dropWhile_eq_nil_iff.mp blank
  refine ⟨?_, ?_, before ++ place.rest, by simp, rfl, ?_⟩
  · rw [getElem?_inkPlaces, inkPlaces_of_areBlank areBlank, List.head?_nil]
  · rw [Place.pastBlanks, blank, List.takeWhile_eq_self_iff.mpr areBlank, position,
      List.length_append]
  · rw [ink_append, ink_eq_nil_iff.mpr areBlank, List.append_nil]

theorem At.pastBlanks_of_cons {cs : List Char} {place : Place} {count : Nat}
    (here : At cs place count) {found : Char} {rest : List Char}
    (eq : place.rest.dropWhile isBlank = found :: rest) :
    ∃ position, (inkPlaces 0 cs)[count]? = some (found, position) ∧
      place.pastBlanks = ⟨position, found :: rest⟩ ∧ At cs ⟨position + 1, rest⟩ (count + 1) := by
  obtain ⟨before, rfl, position, rfl⟩ := here
  obtain ⟨gap, split, blank, noBlank⟩ := exists_gap eq
  have skipped : place.rest.takeWhile isBlank = gap := by
    rw [split, List.takeWhile_append_of_pos blank, List.takeWhile_cons_of_neg (by simp [noBlank]),
      List.append_nil]
  refine ⟨before.length + gap.length, ?_, ?_, before ++ (gap ++ [found]), ?_, ?_, ?_⟩
  · rw [getElem?_inkPlaces, split, inkPlaces_append, inkPlaces_of_areBlank blank,
      inkPlaces_cons noBlank]
    rfl
  · rw [Place.pastBlanks, eq, skipped, position]
  · rw [split, List.append_assoc, List.append_assoc, List.singleton_append]
  · rw [List.length_append, List.length_append, Nat.add_assoc]
    rfl
  · rw [ink_append, ink_append, ink_eq_nil_iff.mpr blank, ink_cons noBlank, List.length_append]
    rfl

def Marks (cs : List Char) (c : Cursor) : LastReading → Prop
  | .absent | .takenBack => c.mark = c.here
  | .character count position =>
    At cs c.mark count ∧ c.mark.position = position ∧ c.here.position ≠ 0
  | .ended => True

/-- The cursor stands in the text `cs` where the reader does. -/
structure Follows (cs : List Char) (c : Cursor) (r : Reader) : Prop where
  view : c.view = r.view
  here : At cs c.here r.count
  mark : Marks cs c r.last
  atEnd : c.atEnd = true ↔ r.last = .ended

namespace Follows

variable {cs : List Char} {c : Cursor} {r : Reader}

theorem start (input : String) : Follows (lowercase input) (Cursor.ofInput input) .start where
  view := rfl
  here := .start (lowercase input)
  mark := rfl
  atEnd := by simp [Cursor.ofInput, Cursor.start, Reader.start]

theorem position_eq (follows : Follows cs c r) : c.here.position = r.position :=
  congrArg View.position follows.view

theorem log_eq (follows : Follows cs c r) : c.log = r.log :=
  congrArg View.log follows.view

theorem read (follows : Follows cs c r) :
    c.read.1 = (r.read cs).1 ∧ Follows cs c.read.2 (r.read cs).2 := by
  have position := follows.position_eq
  have log := follows.log_eq
  unfold Cursor.read Reader.read
  cases eq : c.here.rest.dropWhile isBlank with
  | nil =>
    obtain ⟨none, past, here⟩ := follows.here.pastBlanks_of_end eq
    rw [none, past]
    refine ⟨rfl, ?_, here, trivial, by simp⟩
    simp only [Cursor.view, Reader.view, position, log]
  | cons found rest =>
    obtain ⟨place, some, past, here⟩ := follows.here.pastBlanks_of_cons eq
    rw [some, past]
    refine ⟨rfl, ?_, here, ⟨follows.here, position, Nat.succ_ne_zero place⟩, by simp⟩
    simp only [Cursor.view, Reader.view, position, log]

theorem unread (follows : Follows cs c r) : Follows cs c.unread r.unread := by
  obtain ⟨view, here, mark, atEnd⟩ := follows
  obtain ⟨count, position, afterBlank, last, log⟩ := r
  obtain ⟨place, blank, logged⟩ : c.here.position = position ∧ c.afterBlank = afterBlank ∧
      c.log = log := by simpa [Cursor.view, Reader.view] using view
  unfold Cursor.unread Reader.unread
  cases last with
  | ended =>
    rw [if_pos (atEnd.mpr rfl), if_neg fun warns => warns.2 rfl]
    exact ⟨view, here, mark, atEnd⟩
  | character former origin =>
    obtain ⟨back, same, moved⟩ := mark
    have going : ¬ c.atEnd = true := by simp [atEnd]
    rw [if_neg going, if_neg moved, if_neg fun warns => moved (place.trans warns.1)]
    refine ⟨?_, back, rfl, by simpa [Reader.takeBack] using going⟩
    simp only [Cursor.view, Reader.view, Reader.takeBack, same, blank, logged]
  | absent | takenBack =>
    -- the mark is here, so that going back to it changes nothing
    have going : ¬ c.atEnd = true := by simp [atEnd]
    have stays : { c with here := c.mark } = c := congrArg ({ c with here := · }) mark
    rw [if_neg going, stays, place]
    by_cases zero : position = 0
    · rw [if_pos zero, if_pos ⟨zero, nofun⟩]
      refine ⟨?_, here, mark, by simpa [Reader.takeBack] using going⟩
      simp only [Cursor.view, Reader.view, Reader.takeBack, place, blank, logged]
    · rw [if_neg zero, if_neg fun warns => zero warns.1]
      exact ⟨view, here, mark, atEnd⟩

theorem answer (follows : Follows cs c r) (call : Call) :
    (c.answer call).1 = (r.answer cs call).1 ∧
      Follows cs (c.answer call).2 (r.answer cs call).2 := by
  cases call with
  | read =>
    obtain ⟨same, later⟩ := follows.read
    exact ⟨congrArg some same, later⟩
  | unread => exact ⟨rfl, follows.unread⟩

end Follows

/-- Whatever is read and taken back, a cursor over an input gives the answers of the reader that
counts the characters of the input in small letters, and between the calls it has the same position,
knows the same about blanks, and has logged the same. -/
theorem trace_cursor_eq_trace_reader (input : String) (calls : List Call) :
    trace Cursor.answer Cursor.view (Cursor.ofInput input) calls =
      trace (Reader.answer (lowercase input)) Reader.view .start calls :=
  trace_eq_of_related (Follows (lowercase input)) (fun _ _ follows => follows.view)
    (fun _ _ call follows => follows.answer call) calls (.start input)

end SurfaceLang
