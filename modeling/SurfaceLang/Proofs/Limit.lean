import SurfaceLang.Proofs.FirstFault

namespace SurfaceLang.Grammar

theorem Program.cost_le {ts : List Token} {es : List Expr} {c : Nat} (program : Program ts es c) :
    c ≤ ts.length := by
  induction program with
  | nil => exact Nat.le_refl 0
  | cons first stop others ih =>
    have first_le := first.cost_le
    simp only [Rule.spare, List.length_append] at first_le ⊢
    omega

theorem ProgramFault.ne_tooDeep {before rest : List Token} {c : Nat} {error : ParseError}
    (fault : ProgramFault before rest c error) (limit : Nat) : error ≠ .tooDeep limit := by
  rintro rfl
  exact fault.explains

/-- Every text with the tokens `ts` comes to `result`, if there is room for the levels that are
needed. -/
def ComesTo (ts : List Token) (needed : Nat) (result : Except ParseError Surface) : Prop :=
  ∀ input, tokens input = ts → ∀ m,
    (parseWithin m input).result = if needed ≤ m then result else .error (.tooDeep m)

theorem exists_comesTo (ts : List Token) :
    ∃ needed ≤ ts.length + 1, ∃ result, ComesTo ts needed result ∧
      ∀ limit, result ≠ .error (.tooDeep limit) := by
  rcases settled_program ts with ⟨es, c, program⟩ | ⟨before, rest, c, error, rfl, fault⟩
  · refine ⟨c, Nat.le_succ_of_le program.cost_le, .ok ⟨es⟩, ?_, nofun⟩
    rintro input rfl m
    exact program.result_eq m
  · have few := fault.cost_le
    refine ⟨c, by rw [List.length_append]; omega, .error error, fun input eq m => ?_, ?_⟩
    · rw [fault.result_eq eq m]
      split <;> rfl
    · intro limit same
      exact fault.ne_tooDeep limit (Except.error.inj same)

theorem result_congr {u v : String} (same : tokens u = tokens v) (m : Nat) :
    (parseWithin m u).result = (parseWithin m v).result := by
  obtain ⟨needed, _, result, comesTo, _⟩ := exists_comesTo (tokens v)
  rw [comesTo u same, comesTo v rfl]

/-- A limit below the levels that a text needs makes it too deep, and every other limit gives one
and the same result, which is not that. So no larger limit changes a result that is not too
deep. -/
theorem limit_only_cuts_off (input : String) :
    (∃ needed ≤ (tokens input).length + 1, ∃ result,
      (∀ m < needed, (parseWithin m input).result = .error (.tooDeep m)) ∧
      (∀ m, needed ≤ m → (parseWithin m input).result = result) ∧
      ∀ limit, result ≠ .error (.tooDeep limit)) ∧
    ∀ m larger, m ≤ larger → (parseWithin m input).result ≠ .error (.tooDeep m) →
      (parseWithin larger input).result = (parseWithin m input).result := by
  obtain ⟨needed, few, result, comesTo, shallow⟩ := exists_comesTo (tokens input)
  have reads := comesTo input rfl
  constructor
  · refine ⟨needed, few, result, fun m below => ?_, fun m room => ?_, shallow⟩
    · rw [reads, if_neg (Nat.not_le_of_lt below)]
    · rw [reads, if_pos room]
  · intro m larger le fits
    have room : needed ≤ m := by
      by_contra below
      exact fits (by rw [reads, if_neg below])
    rw [reads, reads, if_pos room, if_pos (Nat.le_trans room le)]

end SurfaceLang.Grammar
