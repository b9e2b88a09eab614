import StoreQuery.Proofs.Clause.Marks

/-!
# Expressions of the same shape

Literals or paths are replaced in all expressions of a query, and the operators above them stay.
What is done with expressions as wholes (to join conditions, to take columns out of objects that are
made, to decide on parentheses) does not look at the leaves, so that it may be done before the
replacement or after it.

* `Expr.KeepsShape` : a map on expressions that replaces leaves only;
* `Expr.KeepsShape.application` : an application is written by its operator and the texts of its
  operands;
* `Clauses.mapExprs` : the clauses with every expression mapped;
* `Clauses.addColumns_mapExprs`, `Clauses.conjoin_mapExprs` : columns and conditions are added
  before or after such a map.
-/

namespace StoreQuery

namespace Expr

/-- The map replaces literals by literals and paths by paths, and keeps the tree above them. -/
structure KeepsShape (φ : Expr → Expr) : Prop where
  /-- A literal stays a literal. -/
  literal : ∀ v, ∃ w, φ (.literal v) = .literal w
  /-- A path stays a path. -/
  path : ∀ q, ∃ r, φ (.path q) = .path r
  /-- The name of a class stays. -/
  className : ∀ name, φ (.className name) = .className name
  /-- Operands are mapped. -/
  apply : ∀ op xs, φ (.apply op xs) = .apply op (xs.map φ)
  /-- Columns of an object that is made are mapped. -/
  construct : ∀ name xs, φ (.construct name xs) = .construct name (xs.map φ)

namespace KeepsShape

variable {φ : Expr → Expr} (h : KeepsShape φ)
include h

theorem and (x y : Expr) : φ (x.and y) = (φ x).and (φ y) := h.apply .and [x, y]

theorem flatten (x : Expr) : Clauses.flatten (φ x) = (Clauses.flatten x).map φ := by
  cases x with
  | literal v =>
    obtain ⟨w, hw⟩ := h.literal v
    simp [hw, Clauses.flatten]
  | path q =>
    obtain ⟨r, hr⟩ := h.path q
    simp [hr, Clauses.flatten]
  | className name => simp [h.className, Clauses.flatten]
  | apply op xs => simp [h.apply, Clauses.flatten]
  | construct name xs => simp [h.construct, Clauses.flatten]

theorem needsParens (op : Operator) (index : Nat) (x : Expr) :
    Pass.needsParens op index (φ x) = Pass.needsParens op index x := by
  cases x with
  | literal v =>
    obtain ⟨w, hw⟩ := h.literal v
    rw [hw]
    rfl
  | path q =>
    obtain ⟨r, hr⟩ := h.path q
    rw [hr]
    rfl
  | className name => rw [h.className]
  | apply child xs =>
    rw [h.apply]
    rfl
  | construct name xs =>
    rw [h.construct]
    rfl

theorem eq_className_iff {x : Expr} {name : String} :
    φ x = .className name ↔ x = .className name := by
  cases x with
  | literal v =>
    obtain ⟨w, hw⟩ := h.literal v
    simp [hw]
  | path q =>
    obtain ⟨r, hr⟩ := h.path q
    simp [hr]
  | className name => rw [h.className]
  | apply op xs => simp [h.apply]
  | construct name xs => simp [h.construct]

/-- The right operand of a class test is a class name, or is none, as before. -/
theorem fits (op : Operator) (xs : List Expr) :
    Patterns.fits op (xs.map φ) = Patterns.fits op xs := by
  rw [Bool.eq_iff_iff, Patterns.fits_iff, Patterns.fits_iff]
  rcases xs with _ | ⟨x, _ | ⟨y, _ | ⟨z, xs⟩⟩⟩ <;> simp [h.eq_className_iff]

theorem operandsFit (op : Operator) (operands : List Pass.Operand) :
    Pass.operandsFit op (operands.map fun x => (φ x.1, x.2)) = Pass.operandsFit op operands := by
  have mapped : (operands.map fun x => (φ x.1, x.2)).map (·.1) = (operands.map (·.1)).map φ := by
    rw [List.map_map, List.map_map]
    rfl
  rw [Pass.operandsFit_eq_fits, Pass.operandsFit_eq_fits, mapped, h.fits]

theorem slot (op : Operator) (operands : List Pass.Operand) :
    Pass.slot op (operands.map fun x => (φ x.1, x.2)) = Pass.slot op operands := by
  funext s
  obtain ⟨s | index, enclosed⟩ := s
  · rfl
  · simp only [Pass.slot, List.getElem?_map]
    cases operands[index]? with
    | none => rfl
    | some x => simp only [Option.map_some, Pass.operand, h.needsParens]

/-- An application to mapped operands that are written as before is written as before. -/
theorem application {p p' : Pass} (hp : p'.patterns = p.patterns) (op : Operator)
    (operands : List Pass.Operand) :
    p'.application op (operands.map fun x => (φ x.1, x.2)) = p.application op operands := by
  simp only [Pass.application, List.length_map, h.operandsFit, h.slot, hp]

end KeepsShape

end Expr

/-- Map what is sorted by. -/
def SortKey.mapTarget (φ : Expr → Expr) (key : SortKey) : SortKey :=
  { key with target := φ key.target }

namespace Clauses

variable (φ : Expr → Expr)

/-- Map every expression of the clauses. -/
def mapExprs (c : Clauses) : Clauses :=
  { c with
    filter := c.filter.map φ
    groupBy := c.groupBy.map φ
    having := c.having.map φ
    columns := c.columns.map φ
    sort := c.sort.map (SortKey.mapTarget φ) }

variable {φ} (h : Expr.KeepsShape φ)
include h

theorem conjoin_mapExprs (existing : Option Expr) (x : Expr) :
    conjoin (existing.map φ) (φ x) = φ (conjoin existing x) := by
  cases existing with
  | none => rfl
  | some y => exact (h.and y x).symm

theorem addColumns_mapExprs (c : Clauses) (xs : List Expr) :
    (c.mapExprs φ).addColumns (xs.map φ) = (c.addColumns xs).mapExprs φ := by
  have parts : (xs.map φ).flatMap flatten = (xs.flatMap flatten).map φ := by
    simp only [List.flatMap_map, List.map_flatMap, h.flatten]
  simp [addColumns, mapExprs, parts]

end Clauses

end StoreQuery
