import Mathlib.Data.List.Forall2
import SurfaceLang.Proofs.Program

namespace SurfaceLang.Grammar

def Unsigned (ts : List Token) : Prop :=
  ∀ t ∈ ts.head?, t.kind ≠ .minus

theorem Stops.unsigned {rest : List Token} (stop : Stops .expression rest) : Unsigned rest := by
  intro t member minus
  have ends := stop t member
  rw [minus] at ends
  cases ends

theorem Phrase.stops {rule : Rule} {ts : List Token} {e : Expr} {c : Nat}
    (phrase : Phrase rule ts e c) (unsigned : Unsigned ts) (rest : List Token) (outer : Rule) :
    Stops outer (ts ++ rest) := by
  obtain ⟨t, us, rfl, begins | minus⟩ := phrase.head
  · exact stops_cons.mpr (goesOn_eq_false_of_beginsPrimary begins outer)
  · exact absurd minus (unsigned t rfl)

variable {m : Nat}

theorem result_eq_ok_iff_program {input : String} {es : List Expr} :
    (parseWithin m input).result = .ok ⟨es⟩ ↔ ∃ c ≤ m, Program (tokens input) es c := by
  constructor
  · intro parsed
    rcases settled_program (tokens input) with
      ⟨found, c, program⟩ | ⟨before, rest, c, error, eq, fault⟩
    · rw [program.result_eq] at parsed
      split at parsed <;> rename_i le
      · cases parsed
        exact ⟨c, le, program⟩
      · cases parsed
    · rw [fault.result_eq eq] at parsed
      cases parsed
  · rintro ⟨c, le, program⟩
    rw [program.result_eq, if_pos le]

end SurfaceLang.Grammar
