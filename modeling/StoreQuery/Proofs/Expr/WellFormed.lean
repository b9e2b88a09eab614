import StoreQuery.Expr

/-!
# Well-formed expressions

An expression is well formed when every operator has as many operands as it takes, the right
operand of every class test is the name of a class, and no object is made in it.

* `Expr.induct` is induction over expressions, with the hypothesis for every operand;
* `Expr.WellFormed` is the predicate.
-/

namespace StoreQuery

namespace Expr

/-- Induction over expressions, with the hypothesis for every operand. -/
@[elab_as_elim, induction_eliminator]
theorem induct {motive : Expr → Prop} (literal : ∀ v, motive (.literal v))
    (path : ∀ p, motive (.path p)) (className : ∀ name, motive (.className name))
    (apply : ∀ op xs, (∀ x ∈ xs, motive x) → motive (.apply op xs))
    (construct : ∀ name xs, (∀ x ∈ xs, motive x) → motive (.construct name xs)) :
    ∀ e, motive e
  | .literal v => literal v
  | .path p => path p
  | .className name => className name
  | .apply op xs => apply op xs fun x _ => induct literal path className apply construct x
  | .construct name xs =>
    construct name xs fun x _ => induct literal path className apply construct x

/-- Every operator has the operands it takes, and no object is made. -/
inductive WellFormed : Expr → Prop where
  | literal (v : Value) : WellFormed (.literal v)
  | path (p : Path) : WellFormed (.path p)
  | className (name : String) : WellFormed (.className name)
  | apply {op : Operator} {xs : List Expr} (arity : xs.length = op.arity)
      (fits : op = .instanceOf → ∃ x name, xs = [x, .className name])
      (operands : ∀ x ∈ xs, WellFormed x) : WellFormed (.apply op xs)

theorem wellFormed_apply_iff {op : Operator} {xs : List Expr} :
    WellFormed (.apply op xs) ↔ xs.length = op.arity ∧
      (op = .instanceOf → ∃ x name, xs = [x, .className name]) ∧ ∀ x ∈ xs, WellFormed x := by
  constructor
  · rintro (_ | _ | _ | ⟨arity, fits, operands⟩)
    exact ⟨arity, fits, operands⟩
  · rintro ⟨arity, fits, operands⟩
    exact .apply arity fits operands

end Expr

end StoreQuery
