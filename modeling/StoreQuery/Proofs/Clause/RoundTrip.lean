import StoreQuery.Proofs.Clause.Reading
import StoreQuery.Proofs.Clause.Regrouping

/-!
# Writing and reading back

A clause with the default templates and labels for literals writes every well-formed expression.
Its text is made of the pieces of the expression, and a reader of the language reads these as a
tree.

* `Pass.Spells` : a text is made of what stands for some pieces;
* `Pass.write_read_iff` : the tree read back is the tree of the expression, up to regrouping of
  associative operators, exactly if the expression keeps its groups.

The condition is not idle: `a * ((b % c) * d)` is written as `a * b % c * d`, which is the remainder
of `a * b` times `d`.
-/

namespace StoreQuery

namespace Pass

variable (p : Pass)

/-- The step ends without an error, and its text is made of what stands for the pieces. -/
def Spells (w : Written) (ps : List (Piece Leaf)) : Prop :=
  w.error? = none ∧
    ∃ texts, List.Forall₂ (p.Stands w.bindings) ps texts ∧ w.text = String.join texts

theorem spells_write {scheme : LabelScheme} (hs : p.scheme? = some scheme)
    (hp : p.patterns.WithinArity) {e : Expr} (h : e.WellFormed) (b : Bindings) :
    p.Spells (p.write e b) (p.patterns.pieces e) := by
  have accepted : ∀ m ∈ p.patterns.marks e, p.accepts m = true := fun m hm =>
    p.accepts_of_scheme hs (Patterns.marks_clean hp h m hm)
  rw [write_eq_marks]
  exact ⟨(p.markAll_error? _ b).2 accepted, p.markAll_spells accepted b⟩

/-- **What a clause writes is read back as the tree of the expression**, up to regrouping of
associative operators, exactly if the expression keeps its groups. -/
theorem write_read_iff (hp : p.patterns = .default) {scheme : LabelScheme}
    (hs : p.scheme? = some scheme) {e : Expr} (h : e.WellFormed) (b : Bindings) :
    p.Spells (p.write e b) (p.patterns.pieces e) ∧
      ∃ t, Reader.read (p.patterns.pieces e) = some t ∧
        (Tree.Regroups Operator.isAssociative t e.expand ↔ e.keepsGroups = true) := by
  refine ⟨p.spells_write hs (hp ▸ Patterns.withinArity_default) h b, e.regrouped, ?_, ?_⟩
  · rw [hp]
    exact Expr.read_pieces h
  · exact Expr.regroups_iff h

end Pass

namespace Expr

/-- A property of the candidate. -/
def ofPerson (name : String) : Expr := .path ⟨"person", [name]⟩

/-- A sum between two bounds, negated; the right operand of the sum is a sum. -/
def keptSum : Expr :=
  (((ofPerson "a").add ((ofPerson "b").add (ofPerson "c"))).between (ofPerson "d")
    (ofPerson "e")).not

/-- The product of `a` and of the product of a remainder and `d`. -/
def tornProduct : Expr :=
  (ofPerson "a").mul (.mul (.apply .rem [ofPerson "b", ofPerson "c"]) (ofPerson "d"))

theorem wellFormed_keptSum : keptSum.WellFormed := by
  simp [keptSum, ofPerson, not, between, add, wellFormed_apply_iff, Operator.arity,
    WellFormed.path]

theorem wellFormed_tornProduct : tornProduct.WellFormed := by
  simp [tornProduct, ofPerson, mul, wellFormed_apply_iff, Operator.arity, WellFormed.path]

end Expr

namespace Pass

/-- The filter of a query for persons. -/
def ofPersons : Pass := ⟨.default, ⟨"Person", "person"⟩, some .alphabetic, []⟩

theorem write_read_keptSum :
    (ofPersons.write .keptSum .empty).text = "!(a + b + c >= d && a + b + c <= e)" ∧
      ∃ t, Reader.read (ofPersons.patterns.pieces .keptSum) = some t ∧
        Tree.Regroups Operator.isAssociative t Expr.keptSum.expand := by
  obtain ⟨-, t, read, regroups⟩ :=
    ofPersons.write_read_iff rfl rfl Expr.wellFormed_keptSum .empty
  exact ⟨by decide, t, read, regroups.2 (by decide)⟩

/-- The text of the product is read as another tree, even up to regrouping. -/
theorem tornProduct_not_read_back :
    Expr.tornProduct.WellFormed ∧
      (ofPersons.write .tornProduct .empty).text = "a * b % c * d" ∧
      ∃ t, Reader.read (ofPersons.patterns.pieces .tornProduct) = some t ∧
        ¬ Tree.Regroups Operator.isAssociative t Expr.tornProduct.expand := by
  refine ⟨Expr.wellFormed_tornProduct, by decide, _,
    Expr.read_pieces Expr.wellFormed_tornProduct, ?_⟩
  rw [Expr.regroups_iff Expr.wellFormed_tornProduct]
  decide

end Pass

end StoreQuery
