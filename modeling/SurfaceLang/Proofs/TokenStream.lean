import SurfaceLang.Proofs.Logging

namespace SurfaceLang.Lexer

open Lexing

def reply (l : Lexer) : Pull → Option Token
  | .next => l.next.1
  | .nextToken => some l.nextToken.1

def replies (l : Lexer) : List Pull → List (Option Token)
  | [] => []
  | p :: pulls => l.reply p :: (l.pull p).replies pulls

def Pull.ending : Pull → Option Token
  | .next => none
  | .nextToken => some ⟨.endOfInput, "\x00"⟩

/-- The tokens that are still to come: none when the lexer has finished. -/
structure Yields (l : Lexer) (ts : List Token) : Prop where
  ahead : ∃ cs, Before l.cursor cs ∧ lexed cs = ts
  finished : l.finished = true → ts = []

theorem yields_ofInput (input : String) : Yields (ofInput input) (tokens input) where
  ahead := ⟨_, .inl rfl, (tokens_eq_lexed input).symm⟩
  finished := nofun

theorem Yields.nextToken_of_nil {l : Lexer} (yields : Yields l []) :
    l.nextToken.1 = Token.endOfInput ∧ Yields l.nextToken.2 [] := by
  obtain ⟨cs, before, none⟩ := yields.ahead
  cases eq : cs.dropWhile Text.isBlank with
  | nil =>
    obtain ⟨after, last, here⟩ := before.nextToken_of_end eq
    rw [nextToken, last]
    exact ⟨rfl, ⟨cs, here, none⟩, fun _ => rfl⟩
  | cons d rest =>
    rw [lexed_of_cons eq] at none
    cases none

theorem Yields.nextToken_of_cons {l : Lexer} {t : Token} {ts : List Token}
    (yields : Yields l (t :: ts)) :
    l.nextToken.1 = t ∧ t.kind ≠ .endOfInput ∧ Yields l.nextToken.2 ts := by
  obtain ⟨cs, before, some⟩ := yields.ahead
  cases eq : cs.dropWhile Text.isBlank with
  | nil =>
    rw [lexed_of_end eq] at some
    cases some
  | cons d rest =>
    rw [lexed_of_cons eq] at some
    obtain ⟨rfl, later⟩ := List.cons.inj some
    obtain ⟨after, found, here⟩ := before.nextToken_of_cons eq
    rw [nextToken, found]
    refine ⟨rfl, kind_scan_ne_endOfInput d rest, ⟨_, here, later⟩, fun finished => ?_⟩
    cases yields.finished finished

theorem Yields.next_of_nil {l : Lexer} (yields : Yields l []) :
    l.next.1 = none ∧ Yields l.next.2 [] := by
  obtain ⟨last, later⟩ := yields.nextToken_of_nil
  have kind : l.nextToken.1.kind = .endOfInput := congrArg Token.kind last
  unfold next
  split
  · exact ⟨rfl, yields⟩
  · dsimp only
    rw [if_pos kind]
    exact ⟨rfl, later.ahead, fun _ => rfl⟩

theorem Yields.next_of_cons {l : Lexer} {t : Token} {ts : List Token}
    (yields : Yields l (t :: ts)) : l.next.1 = some t ∧ Yields l.next.2 ts := by
  obtain ⟨rfl, more, later⟩ := yields.nextToken_of_cons
  unfold next
  split <;> rename_i finished
  · cases yields.finished finished
  · dsimp only
    rw [if_neg more]
    exact ⟨rfl, later⟩

theorem Yields.reply_and_pull {l : Lexer} {ts : List Token} (yields : Yields l ts) (p : Pull) :
    l.reply p = ts.head?.or p.ending ∧ Yields (l.pull p) ts.tail := by
  cases ts with
  | nil =>
    cases p with
    | next => exact yields.next_of_nil
    | nextToken =>
      obtain ⟨last, later⟩ := yields.nextToken_of_nil
      exact ⟨congrArg some last, later⟩
  | cons t ts =>
    cases p with
    | next => exact yields.next_of_cons
    | nextToken =>
      obtain ⟨found, -, later⟩ := yields.nextToken_of_cons
      exact ⟨congrArg some found, later⟩

theorem Yields.replies_eq {l : Lexer} {ts : List Token} (yields : Yields l ts)
    (pulls : List Pull) : l.replies pulls = pulls.mapIdx fun j p => ts[j]?.or p.ending := by
  induction pulls generalizing l ts with
  | nil => rfl
  | cons p pulls ih =>
    obtain ⟨first, later⟩ := yields.reply_and_pull p
    rw [replies, first, ih later, List.mapIdx_cons, List.head?_eq_getElem?]
    simp only [List.getElem?_tail]

/-- Call number `j` is answered with token number `j` of the input, in whichever way it asks and the
calls before it have asked. Behind the last token there is none for `next`, and for `nextToken` the
token that stands for the end, again and again. -/
theorem replies_eq_tokens (input : String) (pulls : List Pull) :
    (ofInput input).replies pulls = pulls.mapIdx fun j p =>
      match (tokens input)[j]?, p with
      | some t, _ => some t
      | none, .next => none
      | none, .nextToken => some ⟨.endOfInput, "\x00"⟩ := by
  rw [(yields_ofInput input).replies_eq pulls]
  congr 1
  funext j p
  cases (tokens input)[j]? <;> cases p <;> rfl

end SurfaceLang.Lexer
