import SurfaceLang.Expr

namespace SurfaceLang.Parser

/-- The tokens not read yet, the number of nested rules around them, and what has been logged. -/
structure State (limit : Nat) where
  rest : List Token
  depth : Nat
  depth_le : depth ≤ limit
  log : List LogRecord

namespace State

variable {limit : Nat}

abbrev withRest (s : State limit) (rest : List Token) : State limit :=
  { s with rest }

abbrev deeper (s : State limit) (room : s.depth < limit) : State limit :=
  { s with depth := s.depth + 1, depth_le := room }

abbrev backTo (after s : State limit) : State limit :=
  { after with depth := s.depth, depth_le := s.depth_le }

theorem length_tail_lt {s : State limit} {t : Token} {rest : List Token}
    (eq : s.rest = t :: rest) : rest.length < s.rest.length := by
  simp [eq]

end State

/-- What changes the tokens left or the level: a token is passed, a level is added, or the level is
set back to what it was. -/
inductive Move where
  | advance
  | deepen
  | restore (level : Nat)
  deriving DecidableEq, Repr

/-- How a rule ends, after the moves that it has made: with an expression and fewer than `bound`
tokens left, or with an error. -/
inductive Step (limit bound : Nat) where
  | parsed (node : Expr) (after : State limit) (moves : List Move)
      (shorter : after.rest.length < bound)
  | failed (error : ParseError) (after : State limit) (moves : List Move)

namespace Step

variable {limit bound larger : Nat}

def after : Step limit bound → State limit
  | parsed _ after _ _ => after
  | failed _ after _ => after

def moves : Step limit bound → List Move
  | parsed _ _ moves _ => moves
  | failed _ _ moves => moves

def Succeeds : Step limit bound → Prop
  | parsed _ _ _ _ => True
  | failed _ _ _ => False

def build (built : Except NodeError Expr) (s : State limit)
    (next : Expr → Step limit bound) : Step limit bound :=
  match built with
  | .ok node => next node
  | .error cause => failed (.node cause) { s with log := s.log ++ [cause.record] } []

def weaken (le : bound ≤ larger) : Step limit bound → Step limit larger
  | parsed node after moves shorter => parsed node after moves (Nat.lt_of_lt_of_le shorter le)
  | failed error after moves => failed error after moves

def behind (earlier : List Move) : Step limit bound → Step limit bound
  | parsed node after moves shorter => parsed node after (earlier ++ moves) shorter
  | failed error after moves => failed error after (earlier ++ moves)

def andThen (first : Step limit bound)
    (next : (node : Expr) → (after : State limit) → after.rest.length < bound → Step limit larger) :
    Step limit larger :=
  match first with
  | parsed node after moves shorter => (next node after shorter).behind moves
  | failed error after moves => failed error after moves

def leave (s : State limit) : Step limit bound → Step limit bound
  | parsed node after moves shorter =>
    parsed node (after.backTo s) (moves ++ [.restore s.depth]) shorter
  | failed error after moves => failed error (after.backTo s) (moves ++ [.restore s.depth])

end Step

namespace State

variable {limit bound : Nat}

def ifFacing (s : State limit) (among : TokenKind → Bool)
    (next : (t : Token) → (rest : List Token) → s.rest = t :: rest → Step limit bound)
    (otherwise : Step limit bound) : Step limit bound :=
  match eq : s.rest with
  | [] => otherwise
  | t :: rest => if among t.kind then next t rest eq else otherwise

theorem ifFacing_of_stop {s : State limit} {among : TokenKind → Bool}
    {next : (t : Token) → (rest : List Token) → s.rest = t :: rest → Step limit bound}
    {otherwise : Step limit bound} (stop : ∀ t ∈ s.rest.head?, among t.kind = false) :
    s.ifFacing among next otherwise = otherwise := by
  unfold ifFacing
  split
  · rfl
  · rename_i t rest eq
    rw [if_neg (by simp [stop t (by rw [eq]; rfl)])]

theorem ifFacing_of_goesOn {s : State limit} {among : TokenKind → Bool} {t : Token}
    {rest : List Token}
    {next : (t : Token) → (rest : List Token) → s.rest = t :: rest → Step limit bound}
    {otherwise : Step limit bound} (eq : s.rest = t :: rest) (goesOn : among t.kind = true) :
    s.ifFacing among next otherwise = next t rest eq := by
  unfold ifFacing
  split
  · rename_i none
    cases none.symm.trans eq
  · rename_i eq'
    cases eq'.symm.trans eq
    rw [if_pos goesOn]

theorem ifFacing_cases {s : State limit} {among : TokenKind → Bool}
    {motive : Step limit bound → Prop}
    {next : (t : Token) → (rest : List Token) → s.rest = t :: rest → Step limit bound}
    {otherwise : Step limit bound}
    (found : ∀ t rest eq, among t.kind = true → motive (next t rest eq))
    (others : motive otherwise) : motive (s.ifFacing among next otherwise) := by
  unfold ifFacing
  split
  · exact others
  · split
    · exact found _ _ _ ‹_›
    · exact others

def advance {t : Token} {rest : List Token} (s : State limit) (eq : s.rest = t :: rest)
    (next : (inner : State limit) → inner.rest.length < s.rest.length → Step limit bound) :
    Step limit bound :=
  (next (s.withRest rest) (length_tail_lt eq)).behind [.advance]

def passing (s : State limit) (among : TokenKind → Bool)
    (next : Token → (inner : State limit) → inner.rest.length < s.rest.length → Step limit bound)
    (otherwise : Step limit bound) : Step limit bound :=
  s.ifFacing among (fun t _ eq => s.advance eq (next t)) otherwise

def expect (s : State limit) (wanted : TokenKind)
    (next : (inner : State limit) → inner.rest.length < s.rest.length → Step limit bound) :
    Step limit bound :=
  s.passing (· == wanted) (fun _ => next) (.failed (.missing wanted (facing s.rest)) s [])

def deepen (s : State limit)
    (next : (inner : State limit) → inner.rest = s.rest → Step limit bound) : Step limit bound :=
  if room : s.depth < limit then (next (s.deeper room) rfl).behind [.deepen]
  else .failed (.tooDeep limit) s []

def nested (s : State limit)
    (rule : (inner : State limit) → inner.rest = s.rest → Step limit bound) : Step limit bound :=
  (s.deepen rule).leave s

end State

end SurfaceLang.Parser
