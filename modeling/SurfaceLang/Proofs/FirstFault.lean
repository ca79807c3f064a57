import Mathlib.Order.Bounds.Defs
import SurfaceLang.Proofs.Cut
import SurfaceLang.Proofs.Sentence

namespace SurfaceLang.Grammar

open SurfaceLang.Parser

theorem ProgramFault.cost_le {before rest : List Token} {c : Nat} {error : ParseError}
    (fault : ProgramFault before rest c error) : c ≤ before.length + 1 := by
  induction fault with
  | here more fault => exact fault.cost_le
  | later first stop fault ih =>
    have first_le := first.cost_le
    simp only [Rule.spare, List.length_append] at first_le ⊢
    omega

theorem ProgramFault.wanted_eq {before rest : List Token} {c : Nat} {error : ParseError}
    {wanted : TokenKind} {found : Token} (fault : ProgramFault before rest c error)
    (missing : error = .missing wanted found) :
    ∃ start t, before = start ++ [t] ∧ wanted = wantedAfter t.kind := by
  induction fault with
  | here more fault =>
    rcases fault.wanted_eq missing with ⟨impossible, _⟩ | last
    · cases impossible
    · exact last
  | @later ts before rest e c d error first stop fault ih =>
    obtain ⟨start, t, rfl, wanted_eq⟩ := ih missing
    exact ⟨ts ++ start, t, (List.append_assoc ..).symm, wanted_eq⟩

theorem ProgramFault.explains {before rest : List Token} {c : Nat} {error : ParseError}
    (fault : ProgramFault before rest c error) : Explains (facing rest) error := by
  induction fault with
  | here more fault => exact fault.explains
  | later first stop fault ih => exact ih

theorem cause_of_finiteValue {text : String} {v : Float} {cause : NodeError}
    (reads : readFloat text = .ok v) (noValue : finiteValue text = .error cause) :
    cause = .outOfRange text ∧ (Binary64.of v).isFinite = false := by
  simp only [finiteValue, reads] at noValue
  split at noValue <;> rename_i finite
  · cases noValue
  · cases noValue
    exact ⟨rfl, Bool.not_eq_true _ ▸ finite⟩

end SurfaceLang.Grammar
