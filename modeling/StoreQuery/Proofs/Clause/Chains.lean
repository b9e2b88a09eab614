import StoreQuery.Proofs.Clause.Marks
import StoreQuery.Proofs.Clause.Trees

/-!
# Chains and the trees they are read as

What stands on one level without parentheses is a `Chain`: a first operand, and then operators,
each with the operand after it. A reader groups a chain to the left. An expression groups as its
tree says, and its text leaves out the parentheses around the right operand of an associative
operator when that is an application of the same operator.

* `Expr.expand` is the tree of an expression, with the derived operators spelled out;
* `Expr.chain` is the chain of its text, and `Expr.regrouped` the tree of that chain;
* `Expr.regrouped_of_isInfix`, `Expr.after_of_isInfix` and `Expr.chain_of_not_isInfix` say how the
  chain of an application is made of those of its operands.
-/

namespace StoreQuery

/-- The tree of a leaf. -/
def Leaf.tree : Leaf → Tree Leaf
  | .literal v => if v.isNull then .word "null" else .atom (.literal v)
  | l => .atom l

namespace Operator

/-- Operators that are written as a sign between two operands. -/
def isInfix : Operator → Bool
  | .and | .or | .eq | .ne | .lt | .le | .gt | .ge | .add | .sub | .mul | .div | .rem
  | .instanceOf => true
  | _ => false

/-- The tree of an application. Derived operators stand for what their templates say. -/
def expand : Operator → List (Tree α) → Tree α
  | .between, [x, low, high] => .node .and [.node .ge [x, low], .node .le [x, high]]
  | .isNull, [x] => .node .eq [x, .word "null"]
  | .isNotNull, [x] => .node .ne [x, .word "null"]
  | .stringContains, [x, y] => .node .gt [.node .indexOf [x, y], .node .neg [.word "1"]]
  | .isNotEmpty, [x] => .node .not [.node .isEmpty [x]]
  | op, ts => .node op ts

theorem isInfix_of_isAssociative {op : Operator} (h : op.isAssociative = true) :
    op.isInfix = true := by
  cases op <;> first | rfl | cases h

theorem of_not_isInfix {o f : Operator} (ho : o.isAssociative = true)
    (h : f.strength = o.strength) (hf : f.isInfix = false) : o = .and ∧ f = .between := by
  cases o <;> cases ho <;> cases f <;> revert h hf <;> decide

theorem expand_of_isInfix {op : Operator} (h : op.isInfix = true) (ts : List (Tree α)) :
    op.expand ts = .node op ts := by
  cases op <;> first | rfl | cases h

/-- What relates trees operand by operand relates them after derived operators are spelled out. -/
theorem expand_rel {R : Tree α → Tree α → Prop} (word : ∀ s, R (.word s) (.word s))
    (node : ∀ op {ts us}, List.Forall₂ R ts us → R (.node op ts) (.node op us)) {op : Operator}
    {ts us : List (Tree α)} (harity : ts.length = op.arity) (h : List.Forall₂ R ts us) :
    R (op.expand ts) (op.expand us) := by
  have pair (op) {t u t' u' : Tree α} (ht : R t t') (hu : R u u') :
      R (.node op [t, u]) (.node op [t', u']) := node op (.cons ht (.cons hu .nil))
  have single (op) {t t' : Tree α} (ht : R t t') : R (.node op [t]) (.node op [t']) :=
    node op (.cons ht .nil)
  -- Only derived operators are spelled out; any other is related as it stands.
  cases op with
  | between =>
    obtain ⟨x, low, high, rfl⟩ := List.length_eq_three.1 harity
    obtain _ | ⟨hx, _ | ⟨hlow, _ | ⟨hhigh, ⟨⟩⟩⟩⟩ := h
    exact pair .and (pair .ge hx hlow) (pair .le hx hhigh)
  | isNull =>
    obtain ⟨x, rfl⟩ := List.length_eq_one_iff.1 harity
    obtain _ | ⟨hx, ⟨⟩⟩ := h
    exact pair .eq hx (word "null")
  | isNotNull =>
    obtain ⟨x, rfl⟩ := List.length_eq_one_iff.1 harity
    obtain _ | ⟨hx, ⟨⟩⟩ := h
    exact pair .ne hx (word "null")
  | stringContains =>
    obtain ⟨x, y, rfl⟩ := List.length_eq_two.1 harity
    obtain _ | ⟨hx, _ | ⟨hy, ⟨⟩⟩⟩ := h
    exact pair .gt (pair .indexOf hx hy) (single .neg (word "1"))
  | isNotEmpty =>
    obtain ⟨x, rfl⟩ := List.length_eq_one_iff.1 harity
    obtain _ | ⟨hx, ⟨⟩⟩ := h
    exact single .not (single .isEmpty hx)
  | _ => exact node _ h

end Operator

namespace Expr

mutual
/-- The tree of an expression. An object that is made has none; its class stands for it. -/
def expand : Expr → Tree Leaf
  | .literal v => (Leaf.literal v).tree
  | .path q => (Leaf.path q).tree
  | .className name => (Leaf.className name).tree
  | .apply op xs => op.expand (expandAll xs)
  | .construct name _ => .word name

/-- The trees of several expressions. -/
def expandAll : List Expr → List (Tree Leaf)
  | [] => []
  | x :: xs => expand x :: expandAll xs
end

@[simp] theorem expandAll_eq_map (xs : List Expr) : expandAll xs = xs.map expand := by
  induction xs with
  | nil => rfl
  | cons x xs ih => simp [expandAll, ih]

/-- The expression is an application of the operator. -/
def isApplication (op : Operator) : Expr → Bool
  | .apply f _ => f = op
  | _ => false

/-- The expression is an application that holds together as tightly as those of the operator. -/
def isAsTight (op : Operator) : Expr → Bool
  | .apply f _ => f.strength = op.strength
  | _ => false

theorem isAsTight_of_isApplication {op : Operator} {e : Expr} (h : e.isApplication op = true) :
    e.isAsTight op = true := by
  rcases e with _ | _ | _ | ⟨f, xs⟩ | _
  case apply =>
    have : f = op := by simpa [isApplication] using h
    simp [isAsTight, this]
  all_goals cases h

theorem isAsTight_congr {f op : Operator} (h : f.strength = op.strength) (e : Expr) :
    e.isAsTight f = e.isAsTight op := by
  cases e <;> simp [isAsTight, h]

end Expr

/-! ### Chains -/

/-- What stands on one level of a text. -/
structure Chain where
  /-- The first operand. -/
  head : Tree Leaf
  /-- The operators with the operands after them. -/
  links : List (Operator × Tree Leaf)

namespace Chain

/-- One link more on the right. -/
def grow (t : Tree Leaf) (link : Operator × Tree Leaf) : Tree Leaf := .node link.1 [t, link.2]

/-- The chain grouped to the left. -/
def tree (c : Chain) : Tree Leaf := c.links.foldl grow c.head

/-- The chain grouped to the left, when an operand and an operator stand before it. -/
def after (c : Chain) (op : Operator) (left : Tree Leaf) : Tree Leaf :=
  c.links.foldl grow (.node op [left, c.head])

/-- The chain of a tree: a conjunction has two operands on its level. -/
def ofTree : Tree Leaf → Chain
  | .node .and [a, b] => ⟨a, [(.and, b)]⟩
  | t => ⟨t, []⟩

/-- An operand on the left of an operator. It needs no parentheses if it is as tight. -/
def left (op : Operator) (x : Expr × Chain) : Chain :=
  if x.1.isAsTight op then x.2 else ⟨x.2.tree, []⟩

/-- An operand on the right of an operator. It needs no parentheses if it is an application of the
same operator and this is associative. -/
def right (op : Operator) (y : Expr × Chain) : List (Operator × Tree Leaf) :=
  if op.isAssociative && y.1.isApplication op then (op, y.2.head) :: y.2.links
  else [(op, y.2.tree)]

@[simp] theorem tree_ofTree (t : Tree Leaf) : (ofTree t).tree = t := by
  unfold ofTree
  split <;> rfl

@[simp] theorem tree_left (op : Operator) (x : Expr × Chain) : (left op x).tree = x.2.tree := by
  unfold left
  split <;> rfl

end Chain

/-- The chain of an application. -/
def Operator.chain (op : Operator) (operands : List (Expr × Chain)) : Chain :=
  match op.isInfix, operands with
  | true, [x, y] => ⟨(Chain.left op x).head, (Chain.left op x).links ++ Chain.right op y⟩
  | _, operands => .ofTree (op.expand (operands.map fun x => x.2.tree))

namespace Expr

mutual
/-- The chain of an expression. -/
def chain : Expr → Chain
  | .literal v => ⟨(Leaf.literal v).tree, []⟩
  | .path q => ⟨(Leaf.path q).tree, []⟩
  | .className name => ⟨(Leaf.className name).tree, []⟩
  | .apply op xs => op.chain (chainOfAll xs)
  | .construct name _ => ⟨.word name, []⟩

/-- Several expressions with their chains. -/
def chainOfAll : List Expr → List (Expr × Chain)
  | [] => []
  | x :: xs => (x, chain x) :: chainOfAll xs
end

@[simp] theorem chainOfAll_eq_map (xs : List Expr) :
    chainOfAll xs = xs.map fun x => (x, chain x) := by
  induction xs with
  | nil => rfl
  | cons x xs ih => simp [chainOfAll, ih]

/-- The tree that the text of an expression is read as. -/
def regrouped (e : Expr) : Tree Leaf := e.chain.tree

/-- What reading makes of an operand on the right of `t` and an operator. -/
def readRight (op : Operator) (t : Tree Leaf) (y : Expr) : Tree Leaf :=
  if op.isAssociative && y.isApplication op then y.chain.after op t else .node op [t, y.regrouped]

/-- A right operand written after `t`, with the parentheses its operator asks for. -/
theorem foldl_right (op : Operator) (t : Tree Leaf) (y : Expr) :
    (Chain.right op (y, y.chain)).foldl Chain.grow t = readRight op t y := by
  unfold Chain.right readRight
  split <;> rfl

theorem regrouped_of_isInfix {op : Operator} (h : op.isInfix = true) (x y : Expr) :
    (Expr.apply op [x, y]).regrouped = readRight op x.regrouped y := by
  have hx : (Chain.left op (x, x.chain)).links.foldl Chain.grow (Chain.left op (x, x.chain)).head =
      x.regrouped := Chain.tree_left op (x, x.chain)
  simp only [regrouped, chain, chainOfAll_eq_map, List.map_cons, List.map_nil, Operator.chain, h,
    Chain.tree, List.foldl_append, hx]
  exact foldl_right op x.regrouped y

theorem after_of_isInfix {f : Operator} (h : f.isInfix = true) (x y : Expr) (op : Operator)
    (left : Tree Leaf) : (Expr.apply f [x, y]).chain.after op left =
      readRight f (if x.isAsTight f then x.chain.after op left else .node op [left, x.regrouped])
        y := by
  have hx : (Chain.left f (x, x.chain)).links.foldl Chain.grow
      (.node op [left, (Chain.left f (x, x.chain)).head]) =
      if x.isAsTight f then x.chain.after op left else .node op [left, x.regrouped] := by
    unfold Chain.left
    split <;> rfl
  simp only [chain, chainOfAll_eq_map, List.map_cons, List.map_nil, Operator.chain, h,
    Chain.after, List.foldl_append]
  rw [hx, foldl_right]
  rfl

theorem chain_of_not_isInfix {op : Operator} (h : op.isInfix = false) (xs : List Expr) :
    (Expr.apply op xs).chain = .ofTree (op.expand (xs.map regrouped)) := by
  simp only [chain, chainOfAll_eq_map, Operator.chain, h, List.map_map]
  rfl

theorem regrouped_of_not_isInfix {op : Operator} (h : op.isInfix = false) (xs : List Expr) :
    (Expr.apply op xs).regrouped = op.expand (xs.map regrouped) := by
  rw [regrouped, chain_of_not_isInfix h, Chain.tree_ofTree]

theorem expand_apply (op : Operator) (xs : List Expr) :
    (Expr.apply op xs).expand = op.expand (xs.map expand) := by
  simp [expand]

theorem WellFormed.operands_of_isInfix {op : Operator} {xs : List Expr}
    (h : (Expr.apply op xs).WellFormed) (hop : op.isInfix = true) : ∃ x y, xs = [x, y] := by
  have arity := (wellFormed_apply_iff.1 h).1
  apply List.length_eq_two.1
  cases op <;> first | exact arity | cases hop

end Expr

end StoreQuery
