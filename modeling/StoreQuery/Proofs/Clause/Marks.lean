import StoreQuery.Assembly
import StoreQuery.Proofs.Expr.WellFormed

/-!
# The marks of an expression

Writing an expression is a walk over its tree that follows the templates. `Patterns.marks` lists
what the walk comes across, left to right and before any label is chosen: fixed text, paths, class
names, literals, and the refusal that ends the walk early.

* `Pass.write_eq_marks` : writing an expression is writing its marks one after another.
-/

namespace StoreQuery

/-! ### Sequences of steps -/

namespace Writer

@[simp] theorem all_nil : all [] = text "" := rfl

@[simp] theorem all_cons (w : Writer) (ws : List Writer) : all (w :: ws) = w.andThen (all ws) :=
  rfl

theorem all_append (us ws : List Writer) : all (us ++ ws) = (all us).andThen (all ws) := by
  induction us with
  | nil => simp
  | cons u us ih => simp [ih, andThen_assoc]

end Writer

/-- A leaf of an expression. -/
inductive Leaf where
  /-- A path. -/
  | path (q : Path)
  /-- The name of a class. -/
  | className (name : String)
  /-- A literal. -/
  | literal (v : Value)

namespace Leaf

/-- The literal at a leaf. -/
def literal? : Leaf → Option Value
  | .literal v => some v
  | _ => none

/-- The path at a leaf. -/
def path? : Leaf → Option Path
  | .path q => some q
  | _ => none

end Leaf

/-- What a walk over an expression comes across. -/
inductive Mark where
  /-- Text of a template, or a parenthesis. -/
  | text (s : String)
  /-- A leaf. -/
  | leaf (l : Leaf)
  /-- The walk ends here. -/
  | refuse (e : ClauseError)

/-- The leaf at a mark. -/
def Mark.leaf? : Mark → Option Leaf
  | .leaf l => some l
  | _ => none

namespace Patterns

variable (P : Patterns)

/-- The marks of an operand at a placeholder. -/
def operandMarks (op : Operator) (index : Nat) (enclosed : Bool) (x : Expr × List Mark) :
    List Mark :=
  if !enclosed && Pass.needsParens op index x.1 then .text "(" :: (x.2 ++ [.text ")"]) else x.2

/-- The marks of a piece of a template. -/
def slotMarks (op : Operator) (operands : List (Expr × List Mark)) : Segment × Bool → List Mark
  | (.text s, _) => [.text s]
  | (.operand index, enclosed) =>
    match operands[index]? with
    | some x => operandMarks op index enclosed x
    | none => [.refuse (.missingOperand op index)]

/-- The right operand of a class test is a class name. -/
def fits (op : Operator) (xs : List Expr) : Bool :=
  match op, xs with
  | .instanceOf, [_, .className _] => true
  | .instanceOf, _ => false
  | _, _ => true

theorem fits_iff {op : Operator} {xs : List Expr} :
    fits op xs = true ↔ (op = .instanceOf → ∃ x name, xs = [x, .className name]) := by
  by_cases hop : op = .instanceOf
  · subst hop
    constructor
    · intro h _
      rcases xs with _ | ⟨x, _ | ⟨y, _ | ⟨z, xs⟩⟩⟩
      · cases h
      · cases h
      · cases y with
        | className name => exact ⟨x, name, rfl⟩
        | _ => cases h
      · cases y <;> cases h
    · intro h
      obtain ⟨x, name, rfl⟩ := h rfl
      rfl
  · constructor
    · intro _ h
      exact absurd h hop
    · intro _
      cases op <;> first | exact absurd rfl hop | rfl

/-- The marks of an application. -/
def applicationMarks (op : Operator) (operands : List (Expr × List Mark)) : List Mark :=
  if operands.length ≠ op.arity then [.refuse (.wrongArity op operands.length)]
  else if fits op (operands.map (·.1)) then
    (P.template op).slots.flatMap (slotMarks op operands)
  else [.refuse .classNameRequired]

mutual
/-- The marks of an expression, in the order in which they are written. -/
def marks : Expr → List Mark
  | .literal v => [.leaf (.literal v)]
  | .path q => [.leaf (.path q)]
  | .className name => [.leaf (.className name)]
  | .apply op xs => P.applicationMarks op (marksOfAll xs)
  | .construct _ _ => [.refuse .constructOutsideProjection]

/-- The operands of an application, each with its marks. -/
def marksOfAll : List Expr → List (Expr × List Mark)
  | [] => []
  | x :: xs => (x, marks x) :: marksOfAll xs
end

@[simp] theorem marksOfAll_eq_map (xs : List Expr) :
    P.marksOfAll xs = xs.map fun x => (x, P.marks x) := by
  induction xs with
  | nil => rfl
  | cons x xs ih => simp [marksOfAll, ih]

end Patterns

/-! ### Writing marks -/

namespace Pass

variable (p : Pass)

/-- Write a leaf. -/
def leaf : Leaf → Writer
  | .path q => Writer.text (p.pathText q)
  | .className name => Writer.text name
  | .literal v => p.literal v

/-- Write a mark. -/
def mark : Mark → Writer
  | .text s => Writer.text s
  | .leaf l => p.leaf l
  | .refuse e => Writer.fail e

/-- Write marks one after another. -/
def markAll (ms : List Mark) : Writer := Writer.all (ms.map p.mark)

@[simp] theorem markAll_nil : p.markAll [] = Writer.text "" := rfl

theorem markAll_cons (m : Mark) (ms : List Mark) :
    p.markAll (m :: ms) = (p.mark m).andThen (p.markAll ms) := rfl

theorem markAll_singleton (m : Mark) : p.markAll [m] = p.mark m := by simp [markAll]

theorem markAll_append (ms ns : List Mark) :
    p.markAll (ms ++ ns) = (p.markAll ms).andThen (p.markAll ns) := by
  simp [markAll, Writer.all_append]

theorem markAll_flatMap (xs : List α) (f : α → List Mark) :
    p.markAll (xs.flatMap f) = Writer.all (xs.map fun x => p.markAll (f x)) := by
  induction xs with
  | nil => rfl
  | cons x xs ih => simp [markAll_append, ih]

theorem operandsFit_eq_fits (op : Operator) (operands : List Operand) :
    operandsFit op operands = Patterns.fits op (operands.map (·.1)) := by
  by_cases h : op = .instanceOf
  · subst h
    rcases operands with _ | ⟨x, _ | ⟨⟨y, w⟩, _ | ⟨z, zs⟩⟩⟩
    · rfl
    · rfl
    · cases y <;> rfl
    · cases y <;> rfl
  · cases op <;> first | exact absurd rfl h | rfl

theorem markAll_operandMarks (op : Operator) (index : Nat) (enclosed : Bool)
    (x : Expr × List Mark) : p.markAll (Patterns.operandMarks op index enclosed x) =
      operand op index enclosed (x.1, p.markAll x.2) := by
  unfold Patterns.operandMarks operand
  split
  · simp [markAll_cons, markAll_append, mark]
  · rfl

theorem markAll_slotMarks (op : Operator) (xs : List Expr) (s : Segment × Bool) :
    p.markAll (Patterns.slotMarks op (xs.map fun x => (x, p.patterns.marks x)) s) =
      slot op (xs.map fun x => (x, p.markAll (p.patterns.marks x))) s := by
  obtain ⟨s | index, enclosed⟩ := s
  · exact p.markAll_singleton _
  · simp only [Patterns.slotMarks, slot, List.getElem?_map]
    cases xs[index]? with
    | none => exact p.markAll_singleton _
    | some x => exact p.markAll_operandMarks op index enclosed _

/-- **Writing an expression is writing its marks**, one after another. -/
theorem write_eq_marks (e : Expr) : p.write e = p.markAll (p.patterns.marks e) := by
  induction e with
  | literal v => exact (p.markAll_singleton (.leaf (.literal v))).symm
  | path q => exact (p.markAll_singleton (.leaf (.path q))).symm
  | className name => exact (p.markAll_singleton (.leaf (.className name))).symm
  | construct name xs _ => exact (p.markAll_singleton (.refuse _)).symm
  | apply op xs ih =>
    have operands : (xs.map fun x => (x, p.write x)) =
        xs.map fun x => (x, p.markAll (p.patterns.marks x)) :=
      List.map_congr_left fun x hx => by rw [ih x hx]
    simp only [write, Patterns.marks, operands_eq_map, Patterns.marksOfAll_eq_map, operands,
      application, Patterns.applicationMarks, operandsFit_eq_fits, List.length_map, List.map_map,
      Function.comp_def]
    split
    · exact (p.markAll_singleton (.refuse _)).symm
    · split
      · simp only [markAll_flatMap, markAll_slotMarks]
      · exact (p.markAll_singleton (.refuse _)).symm

end Pass

end StoreQuery
