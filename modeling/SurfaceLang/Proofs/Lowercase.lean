import Mathlib.Tactic.SplitIfs
import SurfaceLang.Text.Lowercase

namespace SurfaceLang.Text

def smallAlone (c : Char) : List Char :=
  smallLetters false c []

theorem smallLetters_of_ne_sigma {c : Char} (noSigma : c ≠ 'Σ') (behind : Bool)
    (ahead : List Char) : smallLetters behind c ahead = smallAlone c := by
  rw [smallAlone, smallLetters, smallLetters, if_neg noSigma, if_neg noSigma]

theorem lowercaseAfter_of_noSigma {cs : List Char} (noSigma : 'Σ' ∉ cs) (behind : Bool) :
    lowercaseAfter behind cs = cs.flatMap smallAlone := by
  induction cs generalizing behind with
  | nil => rfl
  | cons c cs ih =>
    rw [List.mem_cons, not_or] at noSigma
    obtain ⟨first, later⟩ := noSigma
    rw [lowercaseAfter, smallLetters_of_ne_sigma (Ne.symm first), ih later, List.flatMap_cons]

theorem sigma_of_mem {cs : List Char} (sigma : 'Σ' ∈ cs) (behind : Bool) :
    'σ' ∈ lowercaseAfter behind cs ∨ 'ς' ∈ lowercaseAfter behind cs := by
  induction cs generalizing behind with
  | nil => cases sigma
  | cons c cs ih =>
    rw [lowercaseAfter, List.mem_append, List.mem_append]
    rcases List.mem_cons.mp sigma with rfl | later
    · rw [smallLetters, if_pos rfl]
      split <;> simp
    · rcases ih later (casedBehind behind c) with inside | inside
      · exact .inl (.inr inside)
      · exact .inr (.inr inside)

theorem smallAlone_sigma : smallAlone 'Σ' = ['σ'] :=
  rfl

theorem smallAlone_dotted : smallAlone 'İ' = ['i', '\u0307'] :=
  rfl

theorem smallAlone_of_ne {c : Char} (noSigma : c ≠ 'Σ') (noDot : c ≠ 'İ') :
    smallAlone c = [small c] := by
  rw [smallAlone, smallLetters, if_neg noSigma, if_neg noDot]

theorem lowercaseAfter_eq_self_iff {cs : List Char} (behind : Bool) :
    lowercaseAfter behind cs = cs ↔ ∀ c ∈ cs, smallAlone c = [c] := by
  induction cs generalizing behind with
  | nil => simp [lowercaseAfter]
  | cons c cs ih =>
    rw [lowercaseAfter, List.forall_mem_cons, ← ih (casedBehind behind c)]
    by_cases sigma : c = 'Σ'
    · subst sigma
      rw [smallLetters, if_pos rfl, smallAlone_sigma]
      split <;> simp
    · rw [smallLetters_of_ne_sigma sigma]
      by_cases dotted : c = 'İ'
      · subst dotted
        simp [smallAlone_dotted]
      · simp [smallAlone_of_ne sigma dotted]

theorem smallCode_cases (n : Nat) (runs : List CaseRun) :
    smallCode n runs = n ∨
      ∃ run ∈ runs, run.first ≤ n ∧ n ≤ run.last ∧
        smallCode n runs = run.target + (n - run.first) := by
  induction runs with
  | nil => exact .inl rfl
  | cons run runs ih =>
    rw [smallCode]
    split_ifs with below inside stride
    · exact .inl rfl
    · exact .inr ⟨run, List.mem_cons_self, Nat.le_of_not_lt below, inside, rfl⟩
    · exact .inl rfl
    · rcases ih with same | ⟨later, member, bounds⟩
      · exact .inl same
      · exact .inr ⟨later, List.mem_cons_of_mem run member, bounds⟩

/-- Of all capitals only the Latin ones have small letters from `w` to `z`. -/
theorem smallCode_last_letters {n target : Nat} (code : smallCode n caseRuns = target)
    (low : 0x77 ≤ target) (high : target ≤ 0x7a) : n = target ∨ n + 0x20 = target := by
  rcases smallCode_cases n caseRuns with same | ⟨run, member, first_le, bound, eq⟩
  · exact .inl (same.symm.trans code)
  · have others : ∀ run ∈ caseRuns, run.target + (run.last - run.first) < 0x77 ∨
        0x7a < run.target ∨ run.first = 0x41 ∧ run.target = 0x61 := by
      decide +kernel
    have here := others run member
    omega

theorem toNat_eq_of_ofNat {n : Nat} {d : Char} (eq : Char.ofNat n = d) (noNul : d ≠ '\x00') :
    n = d.toNat := by
  by_cases valid : n.isValidChar
  · have code : Char.ofNat n = Char.ofNatAux n valid := dif_pos valid
    exact congrArg Char.toNat (code.symm.trans eq)
  · have nul : Char.ofNat n = '\x00' := dif_neg valid
    exact absurd (eq.symm.trans nul) noNul

theorem eq_or_capital_of_small {c d : Char} (isSmall : small c = d) (low : 0x77 ≤ d.toNat)
    (high : d.toNat ≤ 0x7a) : c = d ∨ c.toNat + 0x20 = d.toNat := by
  have noNul : d ≠ '\x00' := by
    rintro rfl
    exact absurd low (by decide)
  have code := toNat_eq_of_ofNat isSmall noNul
  exact (smallCode_last_letters code low high).imp_left Char.toNat_inj.mp

/-- What a text is in small letters does not depend on what stands behind it, unless a sigma looks
there. -/
theorem lowercaseAfter_append {cs : List Char} (noSigma : 'Σ' ∉ cs) (behind : Bool)
    (ds : List Char) :
    lowercaseAfter behind (cs ++ ds) =
      lowercaseAfter behind cs ++ lowercaseAfter (cs.foldl casedBehind behind) ds := by
  induction cs generalizing behind with
  | nil => rfl
  | cons c cs ih =>
    rw [List.mem_cons, not_or] at noSigma
    obtain ⟨first, later⟩ := noSigma
    rw [List.cons_append, lowercaseAfter, lowercaseAfter, List.foldl_cons, ih later,
      smallLetters_of_ne_sigma (Ne.symm first), smallLetters_of_ne_sigma (Ne.symm first),
      List.append_assoc]

/-- Ranges that none of the blanks lies in. -/
def NoBlankIn (ranges : List (Nat × Nat)) : Prop :=
  ∀ r ∈ blankRanges, ∀ s ∈ ranges, r.2 < s.1 ∨ s.2 < r.1

theorem inRanges_eq_false_of_isBlank {c : Char} (blank : isBlank c = true)
    {ranges : List (Nat × Nat)} (apart : NoBlankIn ranges) : inRanges c.toNat ranges = false := by
  rw [Bool.eq_false_iff]
  intro inside
  obtain ⟨r, member, low, high⟩ := exists_range_of_inRanges blank
  obtain ⟨s, other, first, last⟩ := exists_range_of_inRanges inside
  have disjoint := apart r member s other
  omega

theorem casedBehind_of_isBlank {c : Char} (blank : isBlank c = true) (before : Bool) :
    casedBehind before c = false := by
  have noLetter : isCased c = false :=
    inRanges_eq_false_of_isBlank blank (by unfold NoBlankIn; decide +kernel)
  have seen : isCaseIgnorable c = false :=
    inRanges_eq_false_of_isBlank blank (by unfold NoBlankIn; decide +kernel)
  rw [casedBehind, seen, noLetter]
  rfl

theorem foldl_casedBehind_of_isBlank {cs : List Char} (nonempty : cs ≠ [])
    (blank : ∀ c ∈ cs, isBlank c = true) (behind : Bool) :
    cs.foldl casedBehind behind = false := by
  induction cs generalizing behind with
  | nil => exact absurd rfl nonempty
  | cons c cs ih =>
    obtain ⟨first, later⟩ := List.forall_mem_cons.mp blank
    rw [List.foldl_cons, casedBehind_of_isBlank first]
    cases cs with
    | nil => rfl
    | cons d cs => exact ih (List.cons_ne_nil d cs) later false

theorem smallAlone_of_isBlank {c : Char} (blank : isBlank c = true) : smallAlone c = [c] := by
  have noSigma : c ≠ 'Σ' := by
    rintro rfl
    revert blank
    decide
  have noDot : c ≠ 'İ' := by
    rintro rfl
    revert blank
    decide
  have apart : NoBlankIn (caseRuns.map fun run => (run.first, run.last)) := by
    unfold NoBlankIn
    decide +kernel
  have same : smallCode c.toNat caseRuns = c.toNat := by
    refine (smallCode_cases c.toNat caseRuns).resolve_right ?_
    rintro ⟨run, member, low, high, _⟩
    obtain ⟨r, isRange, first, last⟩ := exists_range_of_inRanges blank
    have disjoint := apart r isRange _ (List.mem_map_of_mem member)
    omega
  rw [smallAlone_of_ne noSigma noDot, small, same, Char.ofNat_toNat]

theorem lowercase_append_blank {u w v : String} (noSigma : 'Σ' ∉ u.toList) (nonempty : w ≠ "")
    (blank : ∀ c ∈ w.toList, isBlank c = true) :
    lowercase (u ++ w ++ v) = lowercase u ++ (w.toList ++ lowercase v) := by
  have wNoSigma : 'Σ' ∉ w.toList := by
    intro sigma
    cases blank 'Σ' sigma
  have kept : lowercaseAfter (u.toList.foldl casedBehind false) w.toList = w.toList :=
    (lowercaseAfter_eq_self_iff _).mpr fun c member => smallAlone_of_isBlank (blank c member)
  have forgotten := foldl_casedBehind_of_isBlank (mt String.toList_eq_nil_iff.mp nonempty) blank
  unfold lowercase
  rw [String.append_assoc, String.toList_append, String.toList_append,
    lowercaseAfter_append noSigma, lowercaseAfter_append wNoSigma, kept, forgotten]

end SurfaceLang.Text
