import SurfaceLang.Proofs.Reading

namespace SurfaceLang.Grammar

open SurfaceLang.Parser

variable {limit : Nat}

/-- The tokens are the expressions one after the other, each ending where the next token does not
go on with it, and the deepest of them needs the given number of levels. -/
inductive Program : List Token → List Expr → Nat → Prop where
  | nil : Program [] [] 0
  | cons {ts rest : List Token} {e : Expr} {es : List Expr} {c d : Nat}
      (first : Phrase .expression ts e c) (stop : Stops .expression rest)
      (others : Program rest es d) : Program (ts ++ rest) (e :: es) (max c d)

/-- The tokens `before` begin a sequence of expressions, but it cannot go on with `rest`. -/
inductive ProgramFault : (before rest : List Token) → Nat → ParseError → Prop where
  | here {before rest : List Token} {c : Nat} {error : ParseError} (more : before ++ rest ≠ [])
      (fault : Fault .expression before rest c error) : ProgramFault before rest c error
  | later {ts before rest : List Token} {e : Expr} {c d : Nat} {error : ParseError}
      (first : Phrase .expression ts e c) (stop : Stops .expression (before ++ rest))
      (fault : ProgramFault before rest d error) : ProgramFault (ts ++ before) rest (max c d) error

theorem settled_program (ts : List Token) :
    (∃ es c, Program ts es c) ∨
      ∃ before rest c error, ts = before ++ rest ∧ ProgramFault before rest c error := by
  induction length : ts.length using Nat.strongRecOn generalizing ts with
  | ind n ih =>
    by_cases more : ts = []
    · exact .inl ⟨[], 0, more ▸ .nil⟩
    rcases settled_expression ts with
      ⟨us, rest, e, c, rfl, first, stop⟩ | ⟨before, rest, c, error, rfl, fault⟩
    · have positive := List.length_pos_iff.mpr first.ne_nil
      rw [List.length_append] at length
      rcases ih rest.length (by omega) rest rfl with
        ⟨es, d, others⟩ | ⟨before, rest, d, error, rfl, fault⟩
      · exact .inl ⟨e :: es, max c d, .cons first stop others⟩
      · exact .inr ⟨us ++ before, rest, max c d, error, (List.append_assoc ..).symm,
          .later first stop fault⟩
    · exact .inr ⟨before, rest, c, error, rfl, .here more fault⟩

theorem parts_of_parsed {s : State limit} {e : Expr} {after : State limit} (more : s.rest ≠ [])
    (first : (Parser.expression s).outcome = .parsed e after) :
    (parts s).1 = (parts after).1.map (e :: ·) := by
  obtain ⟨moves, shorter, eq⟩ := exists_eq_parsed first
  rw [parts, if_neg (by simpa using more), eq]
  dsimp only
  cases parts after with
  | mk result last => cases result <;> rfl

theorem parts_of_failed {s : State limit} {error : ParseError} {after : State limit}
    (more : s.rest ≠ []) (first : (Parser.expression s).outcome = .failed error after) :
    (parts s).1 = .error error := by
  obtain ⟨moves, eq⟩ := exists_eq_failed first
  rw [parts, if_neg (by simpa using more), eq]

theorem Program.parts_eq {ts : List Token} {es : List Expr} {c : Nat} (program : Program ts es c)
    (depth_le : 0 ≤ limit) (log : List LogRecord) :
    (parts ⟨ts, 0, depth_le, log⟩).1 = if c ≤ limit then .ok es else .error (.tooDeep limit) := by
  induction program with
  | nil =>
    rw [parts]
    rfl
  | @cons ts rest e es c d first stop others ih =>
    have more : ts ++ rest ≠ [] := List.append_ne_nil_of_left_ne_nil first.ne_nil rest
    have read := first.readable limit rest 0 depth_le log stop
    simp only [Reads, Rule.outcome, Rule.step, Nat.zero_add] at read
    split at read <;> rename_i room
    · rw [parts_of_parsed more read]
      simp only [ih, Nat.max_le, room, true_and]
      split <;> rfl
    · obtain ⟨after, eq, _⟩ := read.exists_eq
      rw [parts_of_failed more eq, if_neg (by omega)]

theorem ProgramFault.parts_eq {before rest : List Token} {c : Nat} {error : ParseError}
    (fault : ProgramFault before rest c error) (depth_le : 0 ≤ limit) (log : List LogRecord) :
    (parts ⟨before ++ rest, 0, depth_le, log⟩).1 =
      .error (if c ≤ limit then error else .tooDeep limit) := by
  induction fault with
  | @here before rest c error more fault =>
    obtain ⟨after, eq, _⟩ := (fault.breaks limit 0 depth_le log).exists_eq
    rw [parts_of_failed more eq, Nat.zero_add]
  | @later ts before rest e c d error first stop fault ih =>
    have more : ts ++ (before ++ rest) ≠ [] :=
      List.append_ne_nil_of_left_ne_nil first.ne_nil (before ++ rest)
    have read := first.readable limit (before ++ rest) 0 depth_le log stop
    simp only [Reads, Rule.outcome, Rule.step, Nat.zero_add] at read
    rw [List.append_assoc]
    split at read <;> rename_i room
    · rw [parts_of_parsed more read]
      simp only [ih, Nat.max_le, room, true_and]
      rfl
    · obtain ⟨after, eq, _⟩ := read.exists_eq
      rw [parts_of_failed more eq, if_neg (by omega)]

theorem result_parseWithin (m : Nat) (input : String) :
    (parseWithin m input).result =
      (parts ⟨tokens input, 0, Nat.zero_le m,
        (Lexer.ofInput input).drain.2.cursor.log⟩).1.map Surface.mk :=
  rfl

theorem Program.result_eq {input : String} {es : List Expr} {c : Nat}
    (program : Program (tokens input) es c) (m : Nat) :
    (parseWithin m input).result = if c ≤ m then .ok ⟨es⟩ else .error (.tooDeep m) := by
  rw [result_parseWithin, program.parts_eq]
  split <;> rfl

theorem ProgramFault.result_eq {input : String} {before rest : List Token} {c : Nat}
    {error : ParseError} (eq : tokens input = before ++ rest)
    (fault : ProgramFault before rest c error) (m : Nat) :
    (parseWithin m input).result = .error (if c ≤ m then error else .tooDeep m) := by
  rw [result_parseWithin]
  simp only [eq, fault.parts_eq]
  rfl

end SurfaceLang.Grammar
