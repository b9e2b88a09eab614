import StoreQuery.Proofs.Clause.RoundTrip

/-!
# Arithmetic is read back as it is

A sum whose right operand is a sum, and a product whose right operand is a product, lose the
parentheses that told their grouping. Without such chains nothing of the arithmetic is moved: the
tree that is read is the tree of the expression, and only conjunctions and disjunctions may be
grouped another way.

* `Expr.keepsGroups_of_unchained` : without such chains the groups are kept;
* `Pass.write_read_unchained` : **what is written is read back as the tree of the expression, up to
  the grouping of conjunctions and of disjunctions.**
-/

namespace StoreQuery

/-- Conjunction and disjunction. -/
def Operator.isLogical : Operator → Bool
  | .and | .or => true
  | _ => false

theorem Operator.eq_add_or_eq_mul {op : Operator} (h : op.isAssociative = true)
    (hop : op.isLogical = false) : op = .add ∨ op = .mul := by
  cases op <;> first | cases h; done | cases hop; done | exact .inl rfl | exact .inr rfl

/-- As tight as a conjunction is only a test against a range, and as a disjunction nothing. -/
theorem Operator.eq_or_eq_between {op f : Operator} (hop : op.isLogical = true)
    (h : f.strength = op.strength) : f = op ∨ f = .between := by
  cases op <;> cases hop <;> cases f <;> revert h <;> decide

namespace Expr

/-- What a conjunction or a disjunction opens with is never torn off. -/
theorem opensAlike_of_isLogical {op : Operator} (hop : op.isLogical = true) (e : Expr) :
    e.opensAlike op = true := by
  induction e with
  | literal | path | className | construct => rfl
  | apply f xs ih =>
    cases xs with
    | nil => rfl
    | cons x xs =>
      rw [opensAlike]
      by_cases hf : f = op
      · rw [if_pos hf]
        exact ih x List.mem_cons_self
      · rw [if_neg hf, Bool.or_eq_true, decide_eq_true_iff, decide_eq_true_iff]
        by_cases hstrength : f.strength = op.strength
        · exact .inr ((Operator.eq_or_eq_between hop hstrength).resolve_left hf)
        · exact .inl hstrength

/-- The groups are kept if no sum and no product is chained to the right. -/
theorem keepsGroups_of_unchained {e : Expr} (hadd : .add ∉ e.rightChains)
    (hmul : .mul ∉ e.rightChains) : e.keepsGroups = true := by
  induction e with
  | literal | path | className | construct => rfl
  | apply op xs ih =>
    simp only [mem_rightChains_apply_iff, not_or, not_and, not_exists] at hadd hmul
    rw [keepsGroups_apply_iff]
    refine ⟨?_, fun x hx => ih x hx (hadd.2 x hx) (hmul.2 x hx)⟩
    rcases xs with _ | ⟨x, _ | ⟨y, _ | ⟨z, xs⟩⟩⟩
    · rfl
    · rfl
    · rw [rightOpensAlike_pair_iff]
      intro hassoc hy
      by_cases hop : op.isLogical = true
      · exact opensAlike_of_isLogical hop y
      · rcases Operator.eq_add_or_eq_mul hassoc (by simpa using hop) with rfl | rfl
        · exact absurd hy (hadd.1 rfl)
        · exact absurd hy (hmul.1 rfl)
    · rfl

/-- Without such chains only conjunctions and disjunctions are regrouped. -/
theorem regroups_of_unchained {e : Expr} (h : e.WellFormed) (hadd : .add ∉ e.rightChains)
    (hmul : .mul ∉ e.rightChains) : Tree.Regroups Operator.isLogical e.regrouped e.expand := by
  refine (regroups_of_keepsGroups h (keepsGroups_of_unchained hadd hmul) ?_).1
  intro op hop hassoc
  by_contra hlogical
  rcases Operator.eq_add_or_eq_mul hassoc (by simpa using hlogical) with rfl | rfl
  · exact hadd hop
  · exact hmul hop

end Expr

namespace Pass

variable (p : Pass)

/-- **What a clause writes is read back as the tree of the expression**, up to the grouping of
conjunctions and of disjunctions, if no right operand of a sum is a sum and no right operand of a
product is a product. -/
theorem write_read_unchained (hp : p.patterns = .default) {scheme : LabelScheme}
    (hs : p.scheme? = some scheme) {e : Expr} (h : e.WellFormed) (hadd : .add ∉ e.rightChains)
    (hmul : .mul ∉ e.rightChains) (b : Bindings) :
    p.Spells (p.write e b) (p.patterns.pieces e) ∧
      ∃ t, Reader.read (p.patterns.pieces e) = some t ∧
        Tree.Regroups Operator.isLogical t e.expand := by
  refine ⟨p.spells_write hs (hp ▸ Patterns.withinArity_default) h b, e.regrouped, ?_,
    Expr.regroups_of_unchained h hadd hmul⟩
  rw [hp]
  exact Expr.read_pieces h

end Pass

/-! A sum and a difference with parentheses that stay, under conjunctions chained to the right -/

namespace Expr

/-- A comparison of a sum, beside a range and a negated test for null. -/
def unchained : Expr :=
  (((ofPerson "a").mul (.apply .rem [ofPerson "b", ofPerson "c"])).add
      (.apply .neg [.apply .sub [ofPerson "d", .apply .sub [ofPerson "e", ofPerson "f"]]])).lt
    (ofPerson "g") |>.and
  (((ofPerson "h").between (ofPerson "i") (ofPerson "j")).and (ofPerson "k").isNull.not)

theorem wellFormed_unchained : unchained.WellFormed := by
  simp [unchained, ofPerson, lt, and, not, between, isNull, add, mul, wellFormed_apply_iff,
    Operator.arity, WellFormed.path]

end Expr

theorem Pass.write_read_unchained_range :
    (ofPersons.write .unchained .empty).text =
        "a * (b % c) + -(d - (e - f)) < g && h >= i && h <= j && !(k == null)" ∧
      Expr.unchained.rightChains = [.and, .sub] ∧
      ∃ t, Reader.read (ofPersons.patterns.pieces .unchained) = some t ∧
        Tree.Regroups Operator.isLogical t Expr.unchained.expand := by
  have chains : Expr.unchained.rightChains = [.and, .sub] := by decide
  obtain ⟨-, read⟩ := ofPersons.write_read_unchained rfl rfl Expr.wellFormed_unchained
    (by rw [chains]; decide) (by rw [chains]; decide) .empty
  exact ⟨by decide, chains, read⟩

end StoreQuery
