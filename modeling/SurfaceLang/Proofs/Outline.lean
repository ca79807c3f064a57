import SurfaceLang.Expr.Printer
import SurfaceLang.Proofs.FloatText

namespace SurfaceLang

namespace Expr

def headline : Expr → String
  | literal value => "Literal[" ++ floatText value ++ "]"
  | var name => "Variable[" ++ name.name ++ "]"
  | negate _ => "Negate("
  | binary op _ _ => "BinaryOp[" ++ op.symbol ++ "]("
  | call function _ => "FunctionCall[" ++ function.name ++ "]("

/-- Nodes that are the same but for their operands. -/
def SameNode : Expr → Expr → Prop
  | literal value, literal value' => value = value'
  | var name, var name' => name = name'
  | negate _, negate _ => True
  | binary op _ _, binary op' _ _ => op = op'
  | call function _, call function' _ => function = function'
  | _, _ => False

theorem newline_notMem_headline (e : Expr) : '\n' ∉ e.headline.toList := by
  cases e with
  | literal value =>
    have noBreak := notMem_floatText (c := '\n') rfl value
    simp [headline, noBreak]
  | var name => cases name <;> decide
  | negate operand => simp [headline]
  | binary op left right => cases op <;> simp [headline, BinaryOp.symbol]
  | call function argument => cases function <;> simp [headline, Function.name]

theorem sameNode_of_headline_eq {e f : Expr} (same : e.headline = f.headline) : SameNode e f := by
  -- Nodes of two kinds differ in their first letters.
  have letters : e.headline.toList.head? = f.headline.toList.head? := by rw [same]
  cases e with
  | literal value =>
    cases f with
    | literal value' =>
      simp only [headline, String.append_left_inj, String.append_right_inj] at same
      exact floatText_injective same
    | var | negate | binary | call => simp [headline] at letters
  | var name =>
    cases f with
    | var name' => cases name <;> cases name' <;> first | rfl | cases same
    | literal | negate | binary | call => simp [headline] at letters
  | negate operand =>
    cases f with
    | negate operand' => exact trivial
    | literal | var | binary | call => simp [headline] at letters
  | binary op left right =>
    cases f with
    | binary op' left' right' => cases op <;> cases op' <;> first | rfl | cases same
    | literal | var | negate | call => simp [headline] at letters
  | call function argument =>
    cases f with
    | call function' argument' =>
      cases function <;> cases function' <;> first | rfl | cases same
    | literal | var | negate | binary => simp [headline] at letters

def body (level : Nat) : Expr → List Char
  | literal _ | var _ => []
  | negate operand =>
    (operand.outline (level + 1)).toList ++ (outlineLine level ")").toList
  | binary _ left right =>
    (left.outline (level + 1)).toList ++
      ((right.outline (level + 1)).toList ++ (outlineLine level ")").toList)
  | call _ argument =>
    (argument.outline (level + 1)).toList ++ (outlineLine level ")").toList

theorem toList_outline (level : Nat) (e : Expr) :
    (e.outline level).toList = (outlineLine level e.headline).toList ++ e.body level := by
  cases e <;> simp [outline, headline, body]

theorem toList_outlineLine (level : Nat) (line : String) :
    (outlineLine level line).toList =
      List.replicate (2 * level) ' ' ++ (line.toList ++ ['\n']) := by
  simp [outlineLine]

theorem takeWhile_line {line : List Char} (noBreak : '\n' ∉ line) (rest : List Char) :
    (line ++ '\n' :: rest).takeWhile (· ≠ '\n') = line := by
  have inside : ∀ c ∈ line, decide (c ≠ '\n') = true := by
    intro c member
    exact decide_eq_true fun eq => noBreak (eq ▸ member)
  rw [List.takeWhile_append_of_pos inside, List.takeWhile_cons_of_neg (by simp), List.append_nil]

theorem outlineLine_append_inj {level : Nat} {line line' : String} {rest rest' : List Char}
    (noBreak : '\n' ∉ line.toList) (noBreak' : '\n' ∉ line'.toList)
    (same : (outlineLine level line).toList ++ rest = (outlineLine level line').toList ++ rest') :
    line = line' ∧ rest = rest' := by
  simp only [toList_outlineLine, List.append_assoc, List.singleton_append, List.append_cancel_left_eq]
    at same
  have lines : line.toList = line'.toList := by
    rw [← takeWhile_line noBreak rest, same, takeWhile_line noBreak' rest']
  rw [lines] at same
  exact ⟨String.toList_inj.mp lines, by simpa using same⟩

theorem sameNode_of_outline_append_eq {e f : Expr} {level : Nat} {rest rest' : List Char}
    (same : (e.outline level).toList ++ rest = (f.outline level).toList ++ rest') :
    SameNode e f ∧ e.body level ++ rest = f.body level ++ rest' := by
  rw [toList_outline, toList_outline, List.append_assoc, List.append_assoc] at same
  obtain ⟨lines, bodies⟩ :=
    outlineLine_append_inj e.newline_notMem_headline f.newline_notMem_headline same
  exact ⟨sameNode_of_headline_eq lines, bodies⟩

/-- Where an outline ends is settled by its beginning, and so is the expression. -/
theorem outline_append_inj {e f : Expr} {level : Nat} {rest rest' : List Char}
    (same : (e.outline level).toList ++ rest = (f.outline level).toList ++ rest') :
    e = f ∧ rest = rest' := by
  induction e generalizing f level rest rest' with
  | literal value =>
    obtain ⟨node, bodies⟩ := sameNode_of_outline_append_eq same
    cases f with
    | literal value' => exact ⟨congrArg literal node, bodies⟩
    | var | negate | binary | call => exact node.elim
  | var name =>
    obtain ⟨node, bodies⟩ := sameNode_of_outline_append_eq same
    cases f with
    | var name' => exact ⟨congrArg var node, bodies⟩
    | literal | negate | binary | call => exact node.elim
  | negate operand ih =>
    obtain ⟨node, bodies⟩ := sameNode_of_outline_append_eq same
    cases f with
    | negate operand' =>
      simp only [body, List.append_assoc] at bodies
      obtain ⟨rfl, closing⟩ := ih bodies
      exact ⟨rfl, List.append_cancel_left closing⟩
    | literal | var | binary | call => exact node.elim
  | binary op left right ihLeft ihRight =>
    obtain ⟨node, bodies⟩ := sameNode_of_outline_append_eq same
    cases f with
    | binary op' left' right' =>
      obtain rfl : op = op' := node
      simp only [body, List.append_assoc] at bodies
      obtain ⟨rfl, others⟩ := ihLeft bodies
      obtain ⟨rfl, closing⟩ := ihRight others
      exact ⟨rfl, List.append_cancel_left closing⟩
    | literal | var | negate | call => exact node.elim
  | call function argument ih =>
    obtain ⟨node, bodies⟩ := sameNode_of_outline_append_eq same
    cases f with
    | call function' argument' =>
      obtain rfl : function = function' := node
      simp only [body, List.append_assoc] at bodies
      obtain ⟨rfl, closing⟩ := ih bodies
      exact ⟨rfl, List.append_cancel_left closing⟩
    | literal | var | negate | binary => exact node.elim

theorem head?_outlineLine_succ (level : Nat) (line : String) :
    (outlineLine (level + 1) line).toList.head? = some ' ' := by
  rw [toList_outlineLine, Nat.mul_succ]
  rfl

theorem head?_outline_succ (level : Nat) (e : Expr) :
    (e.outline (level + 1)).toList.head? = some ' ' := by
  rw [toList_outline, List.head?_append, head?_outlineLine_succ]
  rfl

end Expr

namespace Surface

open SurfaceLang.Expr

def outlines (parts : List Expr) : List Char :=
  parts.flatMap fun e => (e.outline 1).toList

theorem toList_outline_surface (s : Surface) :
    s.outline.toList =
      (outlineLine 0 "AST(").toList ++ (outlines s.parts ++ (outlineLine 0 ")").toList) := by
  simp [outline, outlines, String.join_eq, List.flatMap_def, Function.comp_def]

theorem outlines_inj {es fs : List Expr}
    (same : outlines es ++ (outlineLine 0 ")").toList =
      outlines fs ++ (outlineLine 0 ")").toList) : es = fs := by
  have apart (e : Expr) (rest : List Char) :
      (outlineLine 0 ")").toList ≠ (e.outline 1).toList ++ rest := by
    intro eq
    have heads := congrArg List.head? eq
    rw [List.head?_append, head?_outline_succ] at heads
    cases heads
  induction es generalizing fs with
  | nil =>
    cases fs with
    | nil => rfl
    | cons f fs =>
      rw [outlines, outlines, List.flatMap_cons, List.append_assoc] at same
      exact absurd same (apart f _)
  | cons e es ih =>
    rw [outlines, List.flatMap_cons, List.append_assoc] at same
    cases fs with
    | nil => exact absurd same.symm (apart e _)
    | cons f fs =>
      rw [outlines, List.flatMap_cons, List.append_assoc] at same
      obtain ⟨rfl, others⟩ := outline_append_inj same
      rw [ih others]

/-- Surfaces have the same outline just if they have the same parts in the same order. Literals are
the same if their bits are, so that `0` and `-0` are told apart. -/
theorem outline_eq_iff (s t : Surface) : s.outline = t.outline ↔ s = t := by
  constructor
  · intro same
    have texts : s.outline.toList = t.outline.toList := by rw [same]
    rw [toList_outline_surface, toList_outline_surface, List.append_cancel_left_eq] at texts
    have parts := outlines_inj texts
    cases s
    cases t
    exact congrArg Surface.mk parts
  · rintro rfl
    rfl

end Surface

end SurfaceLang
