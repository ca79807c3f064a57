import SurfaceLang.Proofs.Literals

namespace SurfaceLang

namespace Cursor

theorem log_read (c : Cursor) : c.read.2.log = c.log := by
  unfold read
  split <;> rfl

theorem log_unread_read (c : Cursor) : c.read.2.unread.log = c.log := by
  unfold read
  split <;> rfl

theorem log_continue? (wanted : CharClass) (c : Cursor) : (c.continue? wanted).2.log = c.log := by
  unfold continue?
  dsimp only
  split
  · exact log_read c
  · exact log_unread_read c

theorem log_readRun (wanted : CharClass) (c : Cursor) : (c.readRun wanted).2.log = c.log := by
  fun_induction readRun wanted c with
  | case1 c next stop =>
    have step := log_continue? wanted c
    rwa [stop] at step
  | case2 c ch next found run last eq ih =>
    have step := log_continue? wanted c
    rw [found] at step
    rw [eq] at ih
    exact ih.trans step

theorem log_followedBy (wanted : Char) (c : Cursor) : (c.followedBy wanted).2.log = c.log := by
  unfold followedBy
  dsimp only
  split
  · exact log_read c
  · exact log_unread_read c

theorem log_readNumber (first : Char) (c : Cursor) : (c.readNumber first).2.log = c.log := by
  have whole := log_readRun .digit c
  have point := (log_continue? .decimalPoint (c.readRun .digit).2).trans whole
  unfold readNumber
  dsimp only
  split <;> rename_i eq <;> rw [eq] at point
  · exact point
  · exact (log_readRun .digit _).trans point

theorem log_readWord (first : Char) (c : Cursor) : (c.readWord first).2.log = c.log := by
  unfold readWord
  split
  · rfl
  · split
    · rfl
    · exact log_readRun .letter c

theorem log_readSymbol (first : Char) (c : Cursor) : (c.readSymbol first).2.log = c.log := by
  have star := log_followedBy '*' c
  have slash := log_followedBy '/' c
  unfold readSymbol
  repeat' split
  all_goals simp_all

theorem log_readToken (kind : CharClass) (first : Char) (c : Cursor) :
    (c.readToken kind first).2.log = c.log := by
  cases kind with
  | digit => exact log_readNumber first c
  | letter => exact log_readWord first c
  | other => exact log_readSymbol first c
  | endOfInput | decimalPoint | blank => rfl

theorem log_nextToken (c : Cursor) : c.nextToken.2.log = c.log :=
  (log_readToken _ _ _).trans (log_read c)

end Cursor

namespace Lexer

theorem log_next (l : Lexer) : l.next.2.cursor.log = l.cursor.log := by
  unfold next
  split
  · rfl
  · dsimp only
    split <;> exact Cursor.log_nextToken l.cursor

theorem log_drain (l : Lexer) : l.drain.2.cursor.log = l.cursor.log := by
  fun_induction drain l with
  | case1 l last eq =>
    have step := log_next l
    rwa [eq] at step
  | case2 l t later eq rest last drained ih =>
    have step := log_next l
    rw [eq] at step
    rw [drained] at ih
    exact ih.trans step

inductive Pull where
  | next
  | nextToken
  deriving DecidableEq, Repr

def pull (l : Lexer) : Pull → Lexer
  | .next => l.next.2
  | .nextToken => l.nextToken.2

theorem log_pull (l : Lexer) (p : Pull) : (l.pull p).cursor.log = l.cursor.log := by
  cases p with
  | next => exact log_next l
  | nextToken => exact Cursor.log_nextToken l.cursor

theorem log_pulls (pulls : List Pull) (l : Lexer) :
    (pulls.foldl pull l).cursor.log = l.cursor.log := by
  induction pulls generalizing l with
  | nil => rfl
  | cons p pulls ih => exact (ih (l.pull p)).trans (log_pull l p)

end Lexer

namespace Grammar

open SurfaceLang.Parser

variable {limit : Nat}

/-- What has been logged when a rule ends, if it began with `log`: an expression adds nothing, and
an error its own records. -/
def LogsErrors (log : List LogRecord) : Outcome limit → Prop
  | .parsed _ after => after.log = log
  | .failed error after => after.log = log ++ error.records

theorem FailsWith.logsErrors {error : ParseError} {log : List LogRecord} {o : Outcome limit}
    (fails : FailsWith error log o) : LogsErrors log o := by
  obtain ⟨after, rfl, records⟩ := fails.exists_eq
  exact records

theorem logsErrors_expression (s : State limit) :
    LogsErrors s.log (Parser.expression s).outcome := by
  obtain ⟨ts, depth, depth_le, log⟩ := s
  rcases settled_expression ts with
    ⟨us, rest, e, c, rfl, phrase, stop⟩ | ⟨before, rest, c, error, rfl, fault⟩
  · have read := phrase.readable limit rest depth depth_le log stop
    simp only [Reads, Rule.outcome, Rule.step] at read
    split at read
    · rw [read]
      rfl
    · exact read.logsErrors
  · exact (fault.breaks limit depth depth_le log).logsErrors

def recordsOf {α : Type} : Except ParseError α → List LogRecord
  | .ok _ => []
  | .error error => error.records

theorem log_parts (s : State limit) : (parts s).2.log = s.log ++ recordsOf (parts s).1 := by
  fun_induction parts s with
  | case1 s done => exact (List.append_nil _).symm
  | case2 s more error after moves eq =>
    have logs := logsErrors_expression s
    rw [eq] at logs
    exact logs
  | case3 s more node after moves shorter eq nodes last others ih =>
    have logs := logsErrors_expression s
    rw [eq] at logs
    rw [others] at ih
    exact ih.trans (congrArg (· ++ _) logs)
  | case4 s more node after moves shorter eq error last others ih =>
    have logs := logsErrors_expression s
    rw [eq] at logs
    rw [others] at ih
    exact ih.trans (congrArg (· ++ _) logs)

theorem recordsOf_map {α β : Type} (f : α → β) (result : Except ParseError α) :
    recordsOf (result.map f) = recordsOf result := by
  cases result <;> rfl

theorem log_parseWithin (m : Nat) (input : String) :
    (parseWithin m input).log = recordsOf (parseWithin m input).result ++
      [Parsed.lastRecord (parseWithin m input).result] := by
  have silent : (Lexer.ofInput input).drain.2.cursor.log = [] := Lexer.log_drain _
  have logged := log_parts (⟨tokens input, 0, Nat.zero_le m,
    (Lexer.ofInput input).drain.2.cursor.log⟩ : State m)
  rw [silent, List.nil_append, ← recordsOf_map Surface.mk, ← silent, ← result_parseWithin] at logged
  exact congrArg (· ++ [_]) logged

def nodeRecords : ParseError → List LogRecord
  | .node cause => [⟨.error, ParseError.message (.node cause)⟩]
  | _ => []

/-- Of the nodes that cannot be built, a parse only meets literals that are too large, and these are
logged as they are reported. -/
theorem records_of_failed {m : Nat} {input : String} {error : ParseError}
    (failed : (parseWithin m input).result = .error error) :
    error.records = nodeRecords error := by
  cases error with
  | node cause =>
    obtain ⟨text, rfl⟩ := exists_outOfRange failed
    rfl
  | missing | unknown | unexpected | tooDeep => rfl

/-- The records that a parse with this result leaves. -/
def account : Except ParseError Surface → List LogRecord
  | .ok surface =>
    [⟨.debug, "parsed " ++ toString surface.parts.length ++ " top-level expression(s)"⟩]
  | .error error => nodeRecords error ++ [⟨.debug, "parse failed: " ++ error.message⟩]

theorem log_eq_account (m : Nat) (input : String) :
    (parseWithin m input).log = account (parseWithin m input).result := by
  rw [log_parseWithin]
  cases result : (parseWithin m input).result with
  | ok surface => rfl
  | error error =>
    rw [recordsOf, records_of_failed result]
    rfl

theorem level_ne_warn_of_mem_account {result : Except ParseError Surface} :
    ∀ r ∈ account result, r.level ≠ .warn := by
  cases result with
  | ok surface => simp [account]
  | error error => cases error <;> simp [account, nodeRecords]

/-- The log of a parse tells its result: an error record for a node that could not be built, and
then how the parse ended; where the limit is the usual one, the text comes before them. There are no
warnings, and nothing is logged for tokens, in whatever ways they are asked for. -/
theorem log_tells_result (input : String) :
    (∀ m, (parseWithin m input).log = account (parseWithin m input).result ∧
      ∀ r ∈ (parseWithin m input).log, r.level ≠ .warn) ∧
    ((parse input).log = ⟨.debug, "parsing " ++ Text.quote input⟩ :: account (parse input).result ∧
      ∀ r ∈ (parse input).log, r.level ≠ .warn) ∧
    ∀ pulls : List Lexer.Pull, (pulls.foldl Lexer.pull (.ofInput input)).cursor.log = [] := by
  refine ⟨fun m => ?_, ?_, fun pulls => Lexer.log_pulls pulls (.ofInput input)⟩
  · rw [log_eq_account]
    exact ⟨rfl, level_ne_warn_of_mem_account⟩
  · have log : (parse input).log =
        ⟨.debug, "parsing " ++ Text.quote input⟩ :: account (parse input).result :=
      congrArg (_ :: ·) (log_eq_account defaultLimit input)
    rw [log]
    exact ⟨rfl, List.forall_mem_cons.mpr ⟨nofun, level_ne_warn_of_mem_account⟩⟩

end Grammar

end SurfaceLang
