import Mathlib.Data.List.Forall2
import StoreQuery.Proofs.Clause.Reader

/-!
# Trees up to regrouping

Two trees are the same up to regrouping when one becomes the other by moving the parentheses in
chains `a ∘ b ∘ c` of one operator. `Tree.Regroups free` allows this for the operators in `free`.

Regrouping moves no atom past another and changes nothing below an operator that is not free, so
it keeps two numbers:

* `Tree.size`, the number of atoms, words and operators of a tree;
* `Tree.burden`, which adds up, over all differences, quotients and remainders in the tree, the
  sizes of their first operands.
-/

namespace StoreQuery

namespace Tree

variable {α β : Type}

/-! ### Measures -/

/-- Operators of which the first operand is counted. -/
def isDividing : Operator → Bool
  | .sub | .div | .rem => true
  | _ => false

mutual
/-- The number of atoms, words and operators. -/
def size : Tree α → Nat
  | .atom _ => 1
  | .word _ => 1
  | .node _ ts => sizes ts + 1

/-- The number of atoms, words and operators in several trees. -/
def sizes : List (Tree α) → Nat
  | [] => 0
  | t :: ts => size t + sizes ts
end

/-- The size of the first tree, if the operator counts it. -/
def firstSize (op : Operator) (ts : List (Tree α)) : Nat :=
  if isDividing op then (ts.head?.map size).getD 0 else 0

mutual
/-- The sizes of the first operands of all differences, quotients and remainders. -/
def burden : Tree α → Nat
  | .atom _ => 0
  | .word _ => 0
  | .node op ts => firstSize op ts + burdens ts

/-- The burden of several trees. -/
def burdens : List (Tree α) → Nat
  | [] => 0
  | t :: ts => burden t + burdens ts
end

theorem size_pos (t : Tree α) : 0 < t.size := by
  cases t <;> simp [size]

theorem size_pair (op : Operator) (t u : Tree α) :
    (node op [t, u]).size = t.size + u.size + 1 := by
  simp [size, sizes]

theorem burden_pair (op : Operator) (t u : Tree α) : (node op [t, u]).burden =
    (if isDividing op then t.size else 0) + t.burden + u.burden := by
  simp [burden, burdens, firstSize, Nat.add_assoc]

theorem sizes_append (ts us : List (Tree α)) : sizes (ts ++ us) = sizes ts + sizes us := by
  induction ts with
  | nil => simp [sizes]
  | cons t ts ih => simp [sizes, ih, Nat.add_assoc]

theorem burdens_append (ts us : List (Tree α)) : burdens (ts ++ us) = burdens ts + burdens us := by
  induction ts with
  | nil => simp [burdens]
  | cons t ts ih => simp [burdens, ih, Nat.add_assoc]

/-! ### Regrouping -/

/-- The trees are the same up to the grouping of chains of each free operator. -/
inductive Regroups (free : Operator → Bool) : Tree α → Tree α → Prop where
  | refl (t : Tree α) : Regroups free t t
  | symm {t u : Tree α} : Regroups free t u → Regroups free u t
  | trans {t u v : Tree α} : Regroups free t u → Regroups free u v → Regroups free t v
  | assoc {op : Operator} (h : free op = true) (a b c : Tree α) :
      Regroups free (.node op [.node op [a, b], c]) (.node op [a, .node op [b, c]])
  | operand {op : Operator} {t u : Tree α} (before after : List (Tree α)) :
      Regroups free t u →
        Regroups free (.node op (before ++ t :: after)) (.node op (before ++ u :: after))

namespace Regroups

variable {free : Operator → Bool}

/-- Every operand may be regrouped. -/
theorem node (op : Operator) {ts us : List (Tree α)} (h : List.Forall₂ (Regroups free) ts us) :
    Regroups free (.node op ts) (.node op us) := by
  -- The operands are regrouped one after another; `before` are those already done.
  suffices ∀ before : List (Tree α),
      Regroups free (.node op (before ++ ts)) (.node op (before ++ us)) from this []
  induction h with
  | nil =>
    intro before
    exact refl _
  | @cons t u ts us htu _ ih =>
    intro before
    have := ih (before ++ [u])
    rw [List.append_assoc, List.append_assoc] at this
    exact (operand before ts htu).trans this

theorem pair (op : Operator) {a b c d : Tree α} (h : Regroups free a c) (k : Regroups free b d) :
    Regroups free (.node op [a, b]) (.node op [c, d]) :=
  node op (.cons h (.cons k .nil))

/-- Regrouping keeps the size. -/
theorem size_eq {t u : Tree α} (h : Regroups free t u) : t.size = u.size := by
  induction h with
  | refl => rfl
  | symm _ ih => exact ih.symm
  | trans _ _ ih ih' => exact ih.trans ih'
  | assoc _ a b c =>
    simp only [size_pair]
    omega
  | operand before after _ ih => simp [size, sizes_append, sizes, ih]

theorem firstSize_eq (op : Operator) {t u : Tree α} (before after : List (Tree α))
    (h : t.size = u.size) :
    firstSize op (before ++ t :: after) = firstSize op (before ++ u :: after) := by
  cases before with
  | nil => simp [firstSize, h]
  | cons b before => rfl

/-- Regrouping operators that do not divide keeps the burden. -/
theorem burden_eq (hfree : ∀ op, free op = true → isDividing op = false) {t u : Tree α}
    (h : Regroups free t u) : t.burden = u.burden := by
  induction h with
  | refl => rfl
  | symm _ ih => exact ih.symm
  | trans _ _ ih ih' => exact ih.trans ih'
  | assoc hop a b c => simp [burden, burdens, firstSize, hfree _ hop, Nat.add_assoc]
  | operand before after h ih =>
    simp [burden, burdens_append, burdens, ih, firstSize_eq _ before after h.size_eq]

end Regroups

end Tree

end StoreQuery
