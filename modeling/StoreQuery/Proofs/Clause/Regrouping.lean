import StoreQuery.Proofs.Clause.Chains

/-!
# Expressions whose groups survive

A right operand without parentheses is taken apart when it is read: of `a + (b + c)` there remains
`(a + b) + c`. This only regroups a chain, unless the operand opens with another operator that is
as tight, for then its first link is torn off: `a + ((b - c) + d)` becomes `((a + b) - c) + d`.

* `Expr.keepsGroups` : no right operand of `+` is a sum that opens with a difference, and no right
  operand of `*` is a product that opens with a quotient or a remainder;
* `Expr.regroups_of_keepsGroups` : such an expression is read back as its tree, and of its chains
  only those to the right are regrouped;
* `Expr.regroups_iff` : **exactly then the expression is read back as its tree**, up to regrouping
  of associative operators.

One direction regroups step by step. For the other, what is torn off becomes the first operand of
a difference, a quotient or a remainder, and the burden of the tree grows.
-/

namespace StoreQuery

namespace Expr

/-! ### What keeps the groups -/

/-- The first operand, its first operand and so on, as far as they are as tight as `op`, are
applications of `op`. A test against a range counts as the conjunction that it is. -/
def opensAlike (op : Operator) : Expr → Bool
  | .apply f (x :: _) =>
    if f = op then x.opensAlike op else f.strength ≠ op.strength || f = .between
  | _ => true

/-- The right operand, if it is written without parentheses, opens alike. -/
def rightOpensAlike (op : Operator) : List Expr → Bool
  | [_, y] => !(op.isAssociative && y.isApplication op) || y.opensAlike op
  | _ => true

mutual
/-- Every right operand without parentheses opens alike. -/
def keepsGroups : Expr → Bool
  | .apply op xs => rightOpensAlike op xs && keepsGroupsAll xs
  | _ => true

/-- The groups of several expressions are kept. -/
def keepsGroupsAll : List Expr → Bool
  | [] => true
  | x :: xs => keepsGroups x && keepsGroupsAll xs
end

@[simp] theorem keepsGroupsAll_eq_all (xs : List Expr) :
    keepsGroupsAll xs = xs.all keepsGroups := by
  induction xs with
  | nil => rfl
  | cons x xs ih => simp [keepsGroupsAll, ih]

theorem keepsGroups_apply_iff {op : Operator} {xs : List Expr} :
    (Expr.apply op xs).keepsGroups = true ↔
      rightOpensAlike op xs = true ∧ ∀ x ∈ xs, x.keepsGroups = true := by
  simp [keepsGroups]

theorem rightOpensAlike_pair_iff {op : Operator} {x y : Expr} :
    rightOpensAlike op [x, y] = true ↔
      (op.isAssociative = true → y.isApplication op = true → y.opensAlike op = true) := by
  simp only [rightOpensAlike]
  cases op.isAssociative <;> cases y.isApplication op <;> simp

theorem keepsGroups_pair_iff {op : Operator} {x y : Expr} :
    (Expr.apply op [x, y]).keepsGroups = true ↔ x.keepsGroups = true ∧ y.keepsGroups = true ∧
      (op.isAssociative = true → y.isApplication op = true → y.opensAlike op = true) := by
  rw [keepsGroups_apply_iff, rightOpensAlike_pair_iff]
  simp only [List.forall_mem_cons, List.not_mem_nil, false_imp_iff, implies_true, and_true]
  constructor
  · rintro ⟨h, hx, hy⟩
    exact ⟨hx, hy, h⟩
  · rintro ⟨hx, hy, h⟩
    exact ⟨h, hx, hy⟩

theorem opensAlike_of_not_isAsTight {op : Operator} {e : Expr} (h : e.isAsTight op = false) :
    e.opensAlike op = true := by
  rcases e with _ | _ | _ | ⟨f, _ | ⟨x, xs⟩⟩ | _
  case apply.cons =>
    have hf : f.strength ≠ op.strength := by simpa [isAsTight] using h
    have : f ≠ op := by
      rintro rfl
      exact hf rfl
    simp [opensAlike, this, hf]
  all_goals rfl

/-- Associative operators are infix, and only few others are as tight. -/
theorem eq_or_isDividing {o f : Operator} (ho : o.isAssociative = true)
    (h : f.strength = o.strength) :
    f = o ∨ (o = .and ∧ f = .between) ∨ (Tree.isDividing f = true ∧ f.isAssociative = false) := by
  cases o <;> cases ho <;> cases f <;> revert h <;> decide

theorem not_isDividing {op : Operator} (h : op.isAssociative = true) :
    Tree.isDividing op = false := by
  cases op <;> first | rfl | cases h

theorem rightOpensAlike_of_not_isInfix {op : Operator} (h : op.isInfix = false) (xs : List Expr) :
    rightOpensAlike op xs = true := by
  have : op.isAssociative = false := by cases op <;> first | rfl | cases h
  unfold rightOpensAlike
  split <;> simp [this]

theorem eq_of_opensAlike {o f : Operator} {xs : List Expr}
    (h : f.strength = o.strength) (hf : f.isInfix = true) {x : Expr}
    (alike : (Expr.apply f (x :: xs)).opensAlike o = true) : f = o := by
  by_contra hne
  have : f ≠ .between := by
    rintro rfl
    cases hf
  simp [opensAlike, hne, h, this] at alike

/-! ### Chains to the right -/

/-- The right operand is an application of the operator again. -/
def isChained (op : Operator) : List Expr → Bool
  | [_, y] => y.isApplication op
  | _ => false

mutual
/-- The operators with a right operand that is an application of the same operator, wherever in the
expression this is. -/
def rightChains : Expr → List Operator
  | .apply op xs => (if isChained op xs then [op] else []) ++ rightChainsOfAll xs
  | _ => []

/-- The operators chained to the right in several expressions. -/
def rightChainsOfAll : List Expr → List Operator
  | [] => []
  | x :: xs => rightChains x ++ rightChainsOfAll xs
end

@[simp] theorem rightChainsOfAll_eq_flatMap (xs : List Expr) :
    rightChainsOfAll xs = xs.flatMap rightChains := by
  induction xs with
  | nil => rfl
  | cons x xs ih => simp [rightChainsOfAll, ih]

theorem mem_rightChains_apply_iff {op f : Operator} {xs : List Expr} :
    op ∈ (Expr.apply f xs).rightChains ↔
      (op = f ∧ isChained f xs = true) ∨ ∃ x ∈ xs, op ∈ x.rightChains := by
  by_cases h : isChained f xs = true <;> simp [rightChains, h]

/-! ### Kept groups -/

section Kept

open StoreQuery.Tree (Regroups)

variable {free : Operator → Bool}

theorem regroups_readRight {op : Operator} {t : Tree Leaf} {y : Expr}
    (alone : Regroups free y.regrouped y.expand)
    (after : op.isAssociative = true → y.isApplication op = true →
      Regroups free (y.chain.after op t) (.node op [t, y.expand])) :
    Regroups free (readRight op t y) (.node op [t, y.expand]) := by
  unfold readRight
  split
  · rename_i h
    rw [Bool.and_eq_true] at h
    exact after h.1 h.2
  · exact .pair op (.refl t) alone

/-- An expression that keeps its groups is read back, alone and as the right operand of an
associative operator, as its tree. Only operators that are chained to the right are regrouped. -/
theorem regroups_of_keepsGroups {e : Expr} (h : e.WellFormed) (keeps : e.keepsGroups = true)
    (chains : ∀ op ∈ e.rightChains, op.isAssociative = true → free op = true) :
    Regroups free e.regrouped e.expand ∧
      ∀ op left, op.isAssociative = true → free op = true → e.isAsTight op = true →
        e.opensAlike op = true →
        Regroups free (e.chain.after op left) (.node op [left, e.expand]) := by
  -- The operand on the left of an operator is met after what stands before the whole, so that
  -- the induction needs both facts of it.
  induction h with
  | literal | path | className =>
    refine ⟨.refl _, ?_⟩
    rintro _ _ _ _ ⟨⟩
  | @apply f xs arity fits operands ih =>
    obtain ⟨right, each⟩ := keepsGroups_apply_iff.1 keeps
    have kept (x) (hx : x ∈ xs) := ih x hx (each x hx) fun op hop =>
      chains op (mem_rightChains_apply_iff.2 (.inr ⟨x, hx, hop⟩))
    cases hf : f.isInfix with
    | false =>
      rw [expand_apply, regrouped_of_not_isInfix hf, chain_of_not_isInfix hf]
      constructor
      · refine Operator.expand_rel (fun _ => .refl _) (fun op _ _ => .node op)
          (by simpa using arity) ?_
        exact List.forall₂_map_left_iff.2 (List.forall₂_map_right_iff.2
          (List.forall₂_same.2 fun x hx => (kept x hx).1))
      · intro op left hop hfree tight _
        -- Only a test against a range is written with a sign of its own that is as tight.
        obtain ⟨rfl, rfl⟩ := Operator.of_not_isInfix hop (by simpa [isAsTight] using tight) hf
        obtain ⟨x, low, high, rfl⟩ := List.length_eq_three.1 arity
        have hx := (kept x (by simp)).1
        exact (Regroups.assoc hfree _ _ _).trans (.pair .and (.refl _)
          (.pair .and (.pair .ge hx (kept low (by simp)).1) (.pair .le hx (kept high (by simp)).1)))
    | true =>
      obtain ⟨x, y, rfl⟩ := (WellFormed.apply arity fits operands).operands_of_isInfix hf
      rw [rightOpensAlike_pair_iff] at right
      have hx := kept x (by simp)
      have hy := kept y (by simp)
      have step (t : Tree Leaf) : Regroups free (readRight f t y) (.node f [t, y.expand]) := by
        refine regroups_readRight hy.1 ?_
        intro ha hap
        have hfree := chains f (mem_rightChains_apply_iff.2 (.inl ⟨rfl, hap⟩)) ha
        exact hy.2 f t ha hfree (isAsTight_of_isApplication hap) (right ha hap)
      rw [expand_apply, f.expand_of_isInfix hf, regrouped_of_isInfix hf]
      refine ⟨(step _).trans (.pair f hx.1 (.refl _)), ?_⟩
      intro op left hop hfree tight alike
      obtain rfl : f = op := eq_of_opensAlike (by simpa [isAsTight] using tight) hf alike
      rw [after_of_isInfix hf]
      -- The whole hangs on `left` from its first operand on, and is moved back by one step.
      refine (step _).trans (.trans (.pair f ?_ (.refl _)) (.assoc hfree _ _ _))
      by_cases htight : x.isAsTight f = true
      · rw [if_pos htight]
        exact hx.2 f left hop hfree htight (by simpa [opensAlike] using alike)
      · rw [if_neg htight]
        exact .pair f (.refl _) hx.1

end Kept

/-! ### Lost groups -/

/-- The tree has the size `s`, and at least the burden `b`, and more than that unless `p`. -/
structure Weighs (t : Tree Leaf) (s b : Nat) (p : Prop) : Prop where
  /-- The size. -/
  size : t.size = s
  /-- The burden is not less. -/
  least : b ≤ t.burden
  /-- If it is not greater, then `p`. -/
  most : t.burden ≤ b → p

namespace Weighs

theorem self (t : Tree Leaf) : Weighs t t.size t.burden True :=
  ⟨rfl, Nat.le_refl _, fun _ => trivial⟩

theorem imp {t : Tree Leaf} {s b : Nat} {p q : Prop} (h : Weighs t s b p) (hpq : p → q) :
    Weighs t s b q :=
  ⟨h.size, h.least, fun hb => hpq (h.most hb)⟩

theorem congr {t : Tree Leaf} {s s' b b' : Nat} {p : Prop} (h : Weighs t s b p) (hs : s = s')
    (hb : b = b') : Weighs t s' b' p :=
  hs ▸ hb ▸ h

theorem pair (op : Operator) {t u : Tree Leaf} {s b s' b' : Nat} {p q : Prop}
    (h : Weighs t s b p) (k : Weighs u s' b' q) :
    Weighs (.node op [t, u]) (s + s' + 1) ((if Tree.isDividing op then s else 0) + b + b')
      (p ∧ q) := by
  obtain ⟨hs, hb, hp⟩ := h
  obtain ⟨ks, kb, kq⟩ := k
  have burden := Tree.burden_pair op t u
  rw [hs] at burden
  refine ⟨by rw [Tree.size_pair, hs, ks], by omega, ?_⟩
  intro h
  exact ⟨hp (by omega), kq (by omega)⟩

theorem lighter {t : Tree Leaf} {s b b' : Nat} {p q : Prop} (h : Weighs t s b p) (hb : b' < b) :
    Weighs t s b' q := by
  have least := h.least
  refine ⟨h.size, by omega, ?_⟩
  intro hle
  omega

end Weighs

theorem weighs_readRight {op : Operator} {t : Tree Leaf} {y : Expr} {s b : Nat} {p : Prop}
    (ht : Weighs t s b p)
    (alone : Weighs y.regrouped y.expand.size y.expand.burden (y.keepsGroups = true))
    (after : op.isAssociative = true → y.isApplication op = true →
      Weighs (y.chain.after op t) (t.size + y.expand.size + 1) (t.burden + y.expand.burden)
        (y.keepsGroups = true ∧ y.opensAlike op = true)) :
    Weighs (readRight op t y) (s + y.expand.size + 1)
      ((if Tree.isDividing op then s else 0) + b + y.expand.burden)
      (p ∧ y.keepsGroups = true ∧
        (op.isAssociative = true → y.isApplication op = true → y.opensAlike op = true)) := by
  unfold readRight
  split
  · rename_i h
    rw [Bool.and_eq_true] at h
    -- The operand is taken apart and its own chain is hung behind the tree.
    obtain ⟨hs, hb, hp⟩ := ht
    obtain ⟨ks, kb, kq⟩ := after h.1 h.2
    have hop : Tree.isDividing op = false := not_isDividing h.1
    rw [hop, if_neg Bool.false_ne_true]
    refine ⟨by omega, by omega, ?_⟩
    intro h
    obtain ⟨keeps, alike⟩ := kq (by omega)
    exact ⟨hp (by omega), keeps, fun _ _ => alike⟩
  · rename_i h
    rw [Bool.and_eq_true] at h
    refine (ht.pair op alone).imp ?_
    rintro ⟨hp, hy⟩
    exact ⟨hp, hy, fun ha hap => absurd ⟨ha, hap⟩ h⟩

theorem weighs_left {op : Operator} (t : Tree Leaf) {x : Expr} (hop : op.isAssociative = true)
    (alone : Weighs x.regrouped x.expand.size x.expand.burden (x.keepsGroups = true))
    (after : x.isAsTight op = true → Weighs (x.chain.after op t) (t.size + x.expand.size + 1)
      (t.burden + x.expand.burden) (x.keepsGroups = true ∧ x.opensAlike op = true)) :
    Weighs (if x.isAsTight op then x.chain.after op t else .node op [t, x.regrouped])
      (t.size + x.expand.size + 1) (t.burden + x.expand.burden)
      (x.keepsGroups = true ∧ x.opensAlike op = true) := by
  by_cases h : x.isAsTight op = true
  · rw [if_pos h]
    exact after h
  · rw [if_neg h]
    have := (Weighs.self t).pair op alone
    rw [not_isDividing hop, if_neg Bool.false_ne_true, Nat.zero_add] at this
    refine this.imp ?_
    rintro ⟨-, keeps⟩
    exact ⟨keeps, opensAlike_of_not_isAsTight (by simpa using h)⟩

/-- What is written twice weighs twice. -/
def extraBurden (op : Operator) (ts : List (Tree Leaf)) : Nat :=
  if op = .between then (ts.head?.map Tree.burden).getD 0 else 0

theorem burden_expand {op : Operator} (hop : op.isInfix = false) {ts : List (Tree Leaf)}
    (arity : ts.length = op.arity) :
    (op.expand ts).burden = Tree.burdens ts + extraBurden op ts := by
  cases op with
  | between =>
    obtain ⟨x, low, high, rfl⟩ := List.length_eq_three.1 arity
    simp [Operator.expand, extraBurden, Tree.burden, Tree.burdens, Tree.firstSize, Tree.isDividing]
    omega
  | isNull | isNotNull | isNotEmpty =>
    obtain ⟨x, rfl⟩ := List.length_eq_one_iff.1 arity
    simp [Operator.expand, extraBurden, Tree.burden, Tree.burdens, Tree.firstSize, Tree.isDividing]
  | stringContains =>
    obtain ⟨x, y, rfl⟩ := List.length_eq_two.1 arity
    simp [Operator.expand, extraBurden, Tree.burden, Tree.burdens, Tree.firstSize, Tree.isDividing]
  | _ =>
    first
    | simp [Operator.expand, extraBurden, Tree.burden, Tree.firstSize, Tree.isDividing]; done
    | cases hop

theorem size_expand_eq {op : Operator} {ts us : List (Tree Leaf)} (arity : ts.length = op.arity)
    (h : List.Forall₂ (fun t u : Tree Leaf => t.size = u.size) ts us) :
    (op.expand ts).size = (op.expand us).size := by
  refine Operator.expand_rel (R := fun t u => t.size = u.size) (fun _ => rfl) ?_ arity h
  intro op ts us h
  have : Tree.sizes ts = Tree.sizes us := by
    induction h with
    | nil => rfl
    | cons htu _ ih => rw [Tree.sizes, Tree.sizes, htu, ih]
  simp [Tree.size, this]

theorem burdens_regrouped {xs : List Expr}
    (h : ∀ x ∈ xs, Weighs x.regrouped x.expand.size x.expand.burden (x.keepsGroups = true)) :
    Tree.burdens (xs.map expand) ≤ Tree.burdens (xs.map regrouped) ∧
      (Tree.burdens (xs.map regrouped) ≤ Tree.burdens (xs.map expand) →
        ∀ x ∈ xs, x.keepsGroups = true) := by
  induction xs with
  | nil =>
    refine ⟨Nat.le_refl _, ?_⟩
    rintro _ _ ⟨⟩
  | cons x xs ih =>
    obtain ⟨_, hb, hp⟩ := h x (by simp)
    obtain ⟨hbs, hps⟩ := ih fun y hy => h y (by simp [hy])
    simp only [List.map_cons, Tree.burdens, List.forall_mem_cons]
    refine ⟨by omega, ?_⟩
    intro h
    exact ⟨hp (by omega), hps (by omega)⟩

theorem weighs_expand {op : Operator} (hop : op.isInfix = false) {xs : List Expr}
    (arity : xs.length = op.arity)
    (h : ∀ x ∈ xs, Weighs x.regrouped x.expand.size x.expand.burden (x.keepsGroups = true)) :
    Weighs (op.expand (xs.map regrouped)) (op.expand (xs.map expand)).size
      (op.expand (xs.map expand)).burden (∀ x ∈ xs, x.keepsGroups = true) := by
  obtain ⟨hb, hp⟩ := burdens_regrouped h
  have extra : extraBurden op (xs.map expand) ≤ extraBurden op (xs.map regrouped) := by
    unfold extraBurden
    by_cases hbetween : op = .between
    · rw [if_pos hbetween, if_pos hbetween]
      cases xs with
      | nil => exact Nat.le_refl _
      | cons x xs => exact (h x (by simp)).least
    · simp only [if_neg hbetween, Nat.le_refl]
  have burden : (op.expand (xs.map expand)).burden = _ := burden_expand hop (by simpa using arity)
  have burden' : (op.expand (xs.map regrouped)).burden = _ :=
    burden_expand hop (by simpa using arity)
  refine ⟨size_expand_eq (by simpa using arity) ?_, by omega, fun h => hp (by omega)⟩
  exact List.forall₂_map_left_iff.2 (List.forall₂_map_right_iff.2
    (List.forall₂_same.2 fun x hx => (h x hx).size))

/-- What is read of an expression, alone or as the right operand of an associative operator, has
the size of its tree, and a greater burden unless the groups are kept. -/
theorem weighs_of_wellFormed {e : Expr} (h : e.WellFormed) :
    Weighs e.regrouped e.expand.size e.expand.burden (e.keepsGroups = true) ∧
      ∀ op left, op.isAssociative = true → e.isAsTight op = true →
        Weighs (e.chain.after op left) (left.size + e.expand.size + 1)
          (left.burden + e.expand.burden) (e.keepsGroups = true ∧ e.opensAlike op = true) := by
  induction h with
  | literal | path | className =>
    refine ⟨(Weighs.self _).imp fun _ => rfl, ?_⟩
    rintro _ _ _ ⟨⟩
  | @apply f xs arity fits operands ih =>
    cases hf : f.isInfix with
    | false =>
      have right : rightOpensAlike f xs = true := rightOpensAlike_of_not_isInfix hf xs
      have alone := weighs_expand hf arity fun x hx => (ih x hx).1
      rw [expand_apply, regrouped_of_not_isInfix hf, chain_of_not_isInfix hf]
      refine ⟨alone.imp fun h => keepsGroups_apply_iff.2 ⟨right, h⟩, ?_⟩
      intro op left hop tight
      -- Only a test against a range is read as a chain of its own.
      obtain ⟨rfl, rfl⟩ := Operator.of_not_isInfix hop (by simpa [isAsTight] using tight) hf
      obtain ⟨x, low, high, rfl⟩ := List.length_eq_three.1 arity
      have hx := (ih x (by simp)).1
      have ge := hx.pair .ge (ih low (by simp)).1
      have le := hx.pair .le (ih high (by simp)).1
      have both := ((Weighs.self left).pair .and ge).pair .and le
      refine (both.congr ?_ ?_).imp ?_
      · simp only [List.map_cons, List.map_nil, Operator.expand, Tree.size_pair]
        omega
      · simp only [List.map_cons, List.map_nil, Operator.expand, Tree.burden_pair, Tree.isDividing,
          Bool.false_eq_true, if_false]
        omega
      · rintro ⟨⟨_, px, plow⟩, _, phigh⟩
        exact ⟨keepsGroups_apply_iff.2 ⟨right, by simp [px, plow, phigh]⟩, rfl⟩
    | true =>
      obtain ⟨x, y, rfl⟩ := (WellFormed.apply arity fits operands).operands_of_isInfix hf
      have hx := ih x (by simp)
      have hy := ih y (by simp)
      have step {t : Tree Leaf} {s b : Nat} {p : Prop} (ht : Weighs t s b p) :=
        weighs_readRight ht hy.1 fun ha hap => hy.2 f t ha (isAsTight_of_isApplication hap)
      rw [expand_apply, f.expand_of_isInfix hf, regrouped_of_isInfix hf]
      simp only [List.map_cons, List.map_nil, Tree.size_pair, Tree.burden_pair]
      refine ⟨(step hx.1).imp keepsGroups_pair_iff.2, ?_⟩
      intro op left hop tight
      have same : f.strength = op.strength := by simpa [isAsTight] using tight
      have hleft := weighs_left left hop hx.1 (hx.2 op left hop)
      rw [← isAsTight_congr same] at hleft
      rw [after_of_isInfix hf]
      have whole := step hleft
      rcases eq_or_isDividing hop same with rfl | ⟨_, rfl⟩ | ⟨dividing, hassoc⟩
      · rw [not_isDividing hop, if_neg Bool.false_ne_true] at whole ⊢
        refine (whole.congr (by omega) (by omega)).imp ?_
        rintro ⟨⟨px, alike⟩, py⟩
        exact ⟨keepsGroups_pair_iff.2 ⟨px, py⟩, by simpa [opensAlike] using alike⟩
      · cases hf
      · -- What stands before is torn into the first operand, and counts.
        rw [dividing, if_pos rfl] at whole ⊢
        have := left.size_pos
        exact (whole.congr (by omega) rfl).lighter (by omega)

/-- **An expression is read back as its tree**, up to regrouping of associative operators, exactly
if it keeps its groups. -/
theorem regroups_iff {e : Expr} (h : e.WellFormed) :
    Tree.Regroups Operator.isAssociative e.regrouped e.expand ↔ e.keepsGroups = true := by
  constructor
  · intro regroups
    have burden := regroups.burden_eq fun _ => not_isDividing
    exact (weighs_of_wellFormed h).1.most (Nat.le_of_eq burden)
  · exact fun keeps => (regroups_of_keepsGroups h keeps fun _ _ hop => hop).1

end Expr

end StoreQuery
