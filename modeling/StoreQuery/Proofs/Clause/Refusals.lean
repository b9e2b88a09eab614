import StoreQuery.Proofs.Clause.Leaves
import StoreQuery.Proofs.Expr.Literals

/-!
# What a clause refuses

If every template asks for all the operands that its operator takes, and for no other, then no part
of an expression escapes the walk over it. A clause with labels writes an expression exactly if it
is well formed, and a clause without labels if it also holds no literal but null.

* `Patterns.AsksForAll` : the templates ask for all operands, as those by default do;
* `Patterns.forall_mem_marks_apply_iff` : what holds of all marks of an application, said of its
  operands;
* `Pass.forall_accepts_iff` : **the expressions that a clause writes.**
-/

namespace StoreQuery

namespace Patterns

variable {P : Patterns}

/-- Every template asks for every operand that its operator takes. -/
def AsksForAll (P : Patterns) : Prop :=
  ∀ op, ∀ index < op.arity, index ∈ (P.template op).operands

theorem asksForAll_default : default.AsksForAll := by
  intro op
  cases op <;> decide

theorem exists_mem_slots {t : Template} {index : Nat} (h : index ∈ t.operands) :
    ∃ enclosed, (Segment.operand index, enclosed) ∈ t.slots := by
  have segment : Segment.operand index ∈ t.slots.map (·.1) := by
    rw [Template.map_fst_slots]
    obtain ⟨_ | _, hs, hindex⟩ := List.mem_filterMap.1 h
    · cases hindex
    · cases hindex
      exact hs
  obtain ⟨⟨_, enclosed⟩, hs, rfl⟩ := List.mem_map.1 segment
  exact ⟨enclosed, hs⟩

/-- What holds of text and of the marks of all pieces holds of the marks of all operands, and the
other way round. -/
theorem forall_mem_slotMarks_iff (hwithin : P.WithinArity) (hall : P.AsksForAll)
    {Q : Mark → Prop} (htext : ∀ s, Q (.text s)) {op : Operator} {xs : List Expr}
    (arity : xs.length = op.arity) :
    (∀ s ∈ (P.template op).slots, ∀ m ∈ slotMarks op (xs.map fun x => (x, P.marks x)) s, Q m) ↔
      ∀ x ∈ xs, ∀ m ∈ P.marks x, Q m := by
  constructor
  · intro h x hx m hm
    obtain ⟨index, hindex, rfl⟩ := List.getElem_of_mem hx
    obtain ⟨enclosed, hs⟩ := exists_mem_slots (hall op index (arity ▸ hindex))
    refine h _ hs m ?_
    simp only [slotMarks, List.getElem?_map, List.getElem?_eq_getElem hindex, Option.map_some]
    exact mem_operandMarks_of_mem hm
  · exact forall_mem_slotMarks hwithin htext arity

theorem forall_mem_marks_apply_iff (hwithin : P.WithinArity) (hall : P.AsksForAll)
    {Q : Mark → Prop} (htext : ∀ s, Q (.text s)) (hrefuse : ∀ e, ¬ Q (.refuse e)) {op : Operator}
    {xs : List Expr} :
    (∀ m ∈ P.marks (.apply op xs), Q m) ↔ xs.length = op.arity ∧
      (op = .instanceOf → ∃ x name, xs = [x, .className name]) ∧
        ∀ x ∈ xs, ∀ m ∈ P.marks x, Q m := by
  have refused (e : ClauseError) : ¬ ∀ m ∈ [Mark.refuse e], Q m :=
    fun h => hrefuse e (h _ (List.mem_singleton_self _))
  simp only [marks, marksOfAll_eq_map, applicationMarks, List.length_map, List.map_map,
    Function.comp_def, List.map_id']
  by_cases arity : xs.length = op.arity
  · rw [if_neg (not_not_intro arity), ← fits_iff]
    by_cases hfits : fits op xs = true
    · rw [if_pos hfits, ← forall_mem_slotMarks_iff hwithin hall htext arity]
      simp only [arity, hfits, true_and, List.mem_flatMap]
      constructor
      · intro h s hs m hm
        exact h m ⟨s, hs, hm⟩
      · rintro h m ⟨s, hs, hm⟩
        exact h s hs m hm
    · rw [if_neg hfits]
      exact ⟨fun h => absurd h (refused _), fun h => absurd h.2.1 hfits⟩
  · rw [if_pos arity]
    exact ⟨fun h => absurd h (refused _), fun h => absurd h.1 arity⟩

end Patterns

namespace Pass

variable (p : Pass)

/-- **A clause with labels writes the well-formed expressions**, and one without labels writes those
of them that hold no literal but null. -/
theorem forall_accepts_iff (hwithin : p.patterns.WithinArity) (hall : p.patterns.AsksForAll)
    {e : Expr} : (∀ m ∈ p.patterns.marks e, p.accepts m = true) ↔
      e.WellFormed ∧ (p.scheme? = none → ∀ v ∈ e.literals, v.isNull = true) := by
  induction e with
  | literal v =>
    simp only [Patterns.marks, List.mem_singleton, forall_eq, accepts, Expr.literals,
      Expr.WellFormed.literal, true_and, Bool.or_eq_true, Option.isSome_iff_ne_none]
    by_cases hs : p.scheme? = none <;> simp [hs]
  | path q =>
    simp [Patterns.marks, accepts, Expr.literals, Expr.WellFormed.path]
  | className name =>
    simp [Patterns.marks, accepts, Expr.literals, Expr.WellFormed.className]
  | construct name xs _ =>
    constructor
    · intro h
      exact absurd (h _ (List.mem_singleton_self _)) (by simp [accepts])
    · rintro ⟨⟨⟩, -⟩
  | apply op xs ih =>
    have htext (s : String) : p.accepts (.text s) = true := rfl
    rw [Patterns.forall_mem_marks_apply_iff hwithin hall htext (by simp [accepts]),
      Expr.wellFormed_apply_iff, Expr.literals_apply]
    constructor
    · rintro ⟨arity, fits, operands⟩
      refine ⟨⟨arity, fits, fun x hx => ((ih x hx).1 (operands x hx)).1⟩, ?_⟩
      intro hs v hv
      obtain ⟨x, hx, hv⟩ := List.mem_flatMap.1 hv
      exact ((ih x hx).1 (operands x hx)).2 hs v hv
    · rintro ⟨⟨arity, fits, operands⟩, hnull⟩
      refine ⟨arity, fits, fun x hx => (ih x hx).2 ⟨operands x hx, ?_⟩⟩
      intro hs v hv
      exact hnull hs v (List.mem_flatMap.2 ⟨x, hx, hv⟩)

/-- Lists are written exactly if each of their parts is. -/
theorem forall_accepts_separated_iff {separator : String} {mss : List (List Mark)} :
    (∀ m ∈ Mark.separated separator mss, p.accepts m = true) ↔
      ∀ ms ∈ mss, ∀ m ∈ ms, p.accepts m = true := by
  constructor
  · intro h ms hms m hm
    exact h m (Mark.mem_separated hms hm)
  · intro h m hm
    rcases Mark.exists_of_mem_separated hm with rfl | ⟨ms, hms, hm⟩
    · rfl
    · exact h ms hms m hm

theorem forall_accepts_joined_iff (hwithin : p.patterns.WithinArity)
    (hall : p.patterns.AsksForAll) (separator : String) (xs : List Expr) :
    (∀ m ∈ p.patterns.joinedMarks separator xs, p.accepts m = true) ↔
      ∀ x ∈ xs, x.WellFormed ∧ (p.scheme? = none → ∀ v ∈ x.literals, v.isNull = true) := by
  rw [Patterns.joinedMarks, forall_accepts_separated_iff, List.forall_mem_map]
  exact forall₂_congr fun x _ => p.forall_accepts_iff hwithin hall

theorem forall_accepts_sort_iff (hwithin : p.patterns.WithinArity)
    (hall : p.patterns.AsksForAll) (keys : List SortKey) :
    (∀ m ∈ p.patterns.sortMarks keys, p.accepts m = true) ↔
      ∀ key ∈ keys, key.target.WellFormed ∧
        (p.scheme? = none → ∀ v ∈ key.target.literals, v.isNull = true) := by
  rw [Patterns.sortMarks, forall_accepts_separated_iff, List.forall_mem_map]
  refine forall₂_congr fun key _ => ?_
  rw [List.forall_mem_append, ← p.forall_accepts_iff hwithin hall]
  simp [accepts]

end Pass

end StoreQuery
