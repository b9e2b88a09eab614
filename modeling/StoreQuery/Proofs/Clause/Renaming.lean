import StoreQuery.Proofs.Expr.Paths
import StoreQuery.Proofs.Parameters.Labels

/-!
# Clauses with another name for the candidate

The candidate is `this` and its properties are written bare, so that its name is not in the text of
a clause. Where the name is looked at nevertheless, to tell paths of the candidate from others and
to keep labels off variables, another name does as well, unless a path or a label has it already.

* `Pass.Renames` : two passes that differ in the name of the candidate;
* `Pass.write_rename` : **an expression with the new name is written by the second pass as the
  first pass writes the one with the old name.**
-/

namespace StoreQuery

namespace Pass

/-- The second pass is the first one with another name for the candidate, and the same labels are
reserved. -/
structure Renames (old new : String) (p p' : Pass) : Prop where
  /-- The old name. -/
  old : p.candidate.var = old
  /-- The new name. -/
  new : p'.candidate.var = new
  /-- The templates are the same. -/
  patterns : p'.patterns = p.patterns
  /-- The labels are made alike. -/
  scheme? : p'.scheme? = p.scheme?
  /-- The same labels are reserved. -/
  reserved : ∀ scheme, p.scheme? = some scheme →
    ∀ i, scheme.label i ∈ p'.reserved ↔ scheme.label i ∈ p.reserved

variable {old new : String} {p p' : Pass} (h : Renames old new p p')
include h

theorem pathText_rename {q : Path} (hq : q.root ≠ new) :
    p'.pathText (q.rename old new) = p.pathText q := by
  unfold Path.rename
  by_cases hroot : q.root = old
  · simp [pathText, Path.isRoot, hroot, h.old, h.new]
  · simp [pathText, hroot, h.old, h.new, hq]

theorem literal_rename (v : Value) : p'.literal v = p.literal v := by
  funext b
  unfold literal
  rw [h.scheme?]
  cases hscheme : p.scheme? with
  | none => rfl
  | some scheme =>
    have next : scheme.nextFree p'.reserved b.next = scheme.nextFree p.reserved b.next :=
      LabelScheme.nextFree_congr (h.reserved scheme hscheme) b.next
    simp only [Bindings.labelFor, Bindings.assign, next]

/-- **The candidate's name is written nowhere**, so that a new one changes no text. -/
theorem write_rename {e : Expr} (he : ∀ q ∈ e.paths, q.root ≠ new) :
    p'.write (e.rename old new) = p.write e := by
  induction e with
  | literal v => exact literal_rename h v
  | path q =>
    have hq : q.root ≠ new := he q (List.mem_singleton_self q)
    exact congrArg Writer.text (pathText_rename h hq)
  | className name => rfl
  | construct name xs => rfl
  | apply op xs ih =>
    rw [Expr.paths_apply] at he
    have operands : (xs.map (Expr.rename old new)).map (fun x => (x, p'.write x)) =
        (xs.map fun x => (x, p.write x)).map fun x => (x.1.rename old new, x.2) := by
      rw [List.map_map, List.map_map]
      refine List.map_congr_left ?_
      intro x hx
      exact congrArg (Prod.mk _) (ih x hx fun q hq => he q (List.mem_flatMap.2 ⟨x, hx, hq⟩))
    have shape := Expr.keepsShape_rename old new
    rw [shape.apply]
    simp only [write, operands_eq_map, operands, shape.application h.patterns]

theorem writeList_rename (separator : String) {xs : List Expr}
    (hxs : ∀ q ∈ xs.flatMap Expr.paths, q.root ≠ new) :
    p'.writeList separator (xs.map (Expr.rename old new)) = p.writeList separator xs := by
  unfold writeList
  rw [List.map_map]
  refine congrArg _ (List.map_congr_left ?_)
  intro x hx
  exact write_rename h fun q hq => hxs q (List.mem_flatMap.2 ⟨x, hx, hq⟩)

theorem writeSort_rename {keys : List SortKey}
    (hkeys : ∀ q ∈ (keys.map (·.target)).flatMap Expr.paths, q.root ≠ new) :
    p'.writeSort (keys.map (SortKey.mapTarget (Expr.rename old new))) = p.writeSort keys := by
  unfold writeSort
  rw [List.map_map]
  refine congrArg _ (List.map_congr_left ?_)
  intro key hkey
  have target : p'.write (key.target.rename old new) = p.write key.target :=
    write_rename h fun q hq => hkeys q (List.mem_flatMap.2 ⟨_, List.mem_map_of_mem hkey, hq⟩)
  simp only [Function.comp_apply, writeKey, SortKey.mapTarget, target]

/-- The candidate itself is found under its new name. -/
theorem isSource_rename {x : Expr} (hx : ∀ q ∈ x.paths, q.root ≠ new) :
    (x.rename old new).isSource p'.candidate = x.isSource p.candidate := by
  cases x with
  | path q =>
    have hq : q.root ≠ new := hx q (List.mem_singleton_self q)
    simp only [Expr.rename, Expr.mapPaths, Expr.isSource, Path.rename, h.old, h.new]
    by_cases hroot : q.root = old
    · simp [hroot, Path.isRoot]
    · rw [if_neg hroot, beq_false_of_ne hroot, beq_false_of_ne hq]
  | _ => rfl

end Pass

end StoreQuery
