import StoreQuery.Proofs.Clause.Spelling

/-!
# Leaves in the order of the templates

A clause meets the leaves of an expression in the order in which the templates ask for operands; a
template that repeats an operand makes it meet them again. `Patterns.leaves` says so directly, and
without a word on texts, parentheses or refusals.

* `Patterns.filterMap_marks` : if nothing is refused, these are the leaves among the marks;
* `Pass.writeList_eq_marks`, `Pass.writeSort_eq_marks` : lists are written mark by mark, too.
-/

namespace StoreQuery

namespace Patterns

variable (P : Patterns)

mutual
/-- The leaves of an expression, in the order in which the templates ask for them. -/
def leaves : Expr → List Leaf
  | .literal v => [.literal v]
  | .path q => [.path q]
  | .className name => [.className name]
  | .apply op xs => (P.template op).operands.flatMap fun index =>
      ((leavesOfAll xs)[index]?).getD []
  | .construct _ _ => []

/-- The leaves of several expressions. -/
def leavesOfAll : List Expr → List (List Leaf)
  | [] => []
  | x :: xs => leaves x :: leavesOfAll xs
end

@[simp] theorem leavesOfAll_eq_map (xs : List Expr) : P.leavesOfAll xs = xs.map P.leaves := by
  induction xs with
  | nil => rfl
  | cons x xs ih => simp [leavesOfAll, ih]

theorem filterMap_operandMarks (op : Operator) (index : Nat) (enclosed : Bool)
    (x : Expr × List Mark) :
    (operandMarks op index enclosed x).filterMap Mark.leaf? = x.2.filterMap Mark.leaf? := by
  unfold operandMarks
  split
  · simp [List.filterMap_cons, Mark.leaf?]
  · rfl

theorem mem_operandMarks_of_mem {op : Operator} {index : Nat} {enclosed : Bool}
    {x : Expr × List Mark} {m : Mark} (h : m ∈ x.2) : m ∈ operandMarks op index enclosed x := by
  unfold operandMarks
  split <;> simp [h]

/-- The leaves at a piece of a template. -/
def slotLeaves (xs : List Expr) : Segment × Bool → List Leaf
  | (.text _, _) => []
  | (.operand index, _) => ((xs.map P.leaves)[index]?).getD []

theorem leaves_apply (op : Operator) (xs : List Expr) :
    P.leaves (.apply op xs) = (P.template op).slots.flatMap (P.slotLeaves xs) := by
  simp only [leaves, leavesOfAll_eq_map, Template.operands]
  rw [← Template.map_fst_slots]
  generalize (P.template op).slots = slots
  induction slots with
  | nil => rfl
  | cons s slots ih =>
    obtain ⟨s | index, enclosed⟩ := s
    · simpa [slotLeaves] using ih
    · rw [List.flatMap_cons, ← ih]
      simp [slotLeaves]

theorem filterMap_slotMarks {op : Operator} {xs : List Expr} {s : Segment × Bool}
    (ih : ∀ x ∈ xs, (∀ m ∈ P.marks x, m.isRefusal = false) →
      (P.marks x).filterMap Mark.leaf? = P.leaves x)
    (h : ∀ m ∈ slotMarks op (xs.map fun x => (x, P.marks x)) s, m.isRefusal = false) :
    (slotMarks op (xs.map fun x => (x, P.marks x)) s).filterMap Mark.leaf? = P.slotLeaves xs s := by
  obtain ⟨s | index, enclosed⟩ := s
  · rfl
  · simp only [slotMarks, slotLeaves, List.getElem?_map] at h ⊢
    cases hx : xs[index]? with
    | none =>
      rw [hx] at h
      exact absurd (h _ (List.mem_singleton_self _)) (by simp [Mark.isRefusal])
    | some x =>
      rw [hx] at h
      simp only [Option.map_some, filterMap_operandMarks, Option.getD_some]
      exact ih x (List.mem_of_getElem? hx) fun m hm => h m (mem_operandMarks_of_mem hm)

/-- If nothing is refused, the leaves among the marks are those that the templates ask for. -/
theorem filterMap_marks {e : Expr} (h : ∀ m ∈ P.marks e, m.isRefusal = false) :
    (P.marks e).filterMap Mark.leaf? = P.leaves e := by
  induction e with
  | literal | path | className | construct => rfl
  | apply op xs ih =>
    rw [leaves_apply]
    simp only [marks, marksOfAll_eq_map, applicationMarks] at h ⊢
    split at h
    · exact absurd (h _ (List.mem_singleton_self _)) (by simp [Mark.isRefusal])
    split at h
    · rename_i hlength hfits
      rw [if_neg hlength, if_pos hfits, List.filterMap_flatMap]
      refine List.flatMap_congr ?_
      intro s hs
      exact P.filterMap_slotMarks ih fun m hm => h m (List.mem_flatMap.2 ⟨s, hs, hm⟩)
    · exact absurd (h _ (List.mem_singleton_self _)) (by simp [Mark.isRefusal])

end Patterns

/-! ### Lists -/

namespace Mark

/-- Marks with a text between each two lists of them. -/
def separated (separator : String) : List (List Mark) → List Mark
  | [] => []
  | [ms] => ms
  | ms :: rest => ms ++ .text separator :: separated separator rest

theorem filterMap_separated (separator : String) (mss : List (List Mark)) :
    (separated separator mss).filterMap leaf? = mss.flatMap (·.filterMap leaf?) := by
  fun_induction separated separator mss with
  | case1 => rfl
  | case2 ms => simp
  | case3 ms rest _ ih => simp [List.filterMap_cons, leaf?, ih]

theorem mem_separated {separator : String} {mss : List (List Mark)} {ms : List Mark} {m : Mark}
    (hms : ms ∈ mss) (hm : m ∈ ms) : m ∈ separated separator mss := by
  fun_induction separated separator mss with
  | case1 => cases hms
  | case2 ms' =>
    obtain rfl := List.mem_singleton.1 hms
    exact hm
  | case3 ms' rest _ ih =>
    obtain rfl | hms := List.mem_cons.1 hms
    · exact List.mem_append_left _ hm
    · exact List.mem_append_right _ (List.mem_cons_of_mem _ (ih hms))

theorem exists_of_mem_separated {separator : String} {mss : List (List Mark)} {m : Mark}
    (hm : m ∈ separated separator mss) : m = .text separator ∨ ∃ ms ∈ mss, m ∈ ms := by
  fun_induction separated separator mss with
  | case1 => cases hm
  | case2 ms => exact .inr ⟨ms, List.mem_singleton_self ms, hm⟩
  | case3 ms rest _ ih =>
    rcases List.mem_append.1 hm with hm | hm
    · exact .inr ⟨ms, List.mem_cons_self, hm⟩
    rcases List.mem_cons.1 hm with rfl | hm
    · exact .inl rfl
    rcases ih hm with rfl | ⟨ms', hms, hm⟩
    · exact .inl rfl
    · exact .inr ⟨ms', List.mem_cons_of_mem ms hms, hm⟩

end Mark

namespace Patterns

variable (P : Patterns)

/-- The marks of expressions with a text between each two. -/
def joinedMarks (separator : String) (xs : List Expr) : List Mark :=
  Mark.separated separator (xs.map P.marks)

/-- The marks of sort keys with commas between. -/
def sortMarks (keys : List SortKey) : List Mark :=
  Mark.separated ", "
    (keys.map fun key => P.marks key.target ++ [.text (" " ++ key.direction.keyword)])

theorem filterMap_joinedMarks {separator : String} {xs : List Expr}
    (h : ∀ m ∈ P.joinedMarks separator xs, m.isRefusal = false) :
    (P.joinedMarks separator xs).filterMap Mark.leaf? = xs.flatMap P.leaves := by
  rw [joinedMarks, Mark.filterMap_separated, List.flatMap_map]
  refine List.flatMap_congr ?_
  intro x hx
  exact P.filterMap_marks fun m hm => h m (Mark.mem_separated (List.mem_map_of_mem hx) hm)

end Patterns

namespace Pass

variable (p : Pass)

theorem markAll_separated (separator : String) (mss : List (List Mark)) :
    p.markAll (Mark.separated separator mss) =
      Writer.separated separator (mss.map p.markAll) := by
  fun_induction Mark.separated separator mss with
  | case1 => rfl
  | case2 ms => rfl
  | case3 ms rest hrest ih =>
    obtain _ | ⟨ms', rest⟩ := rest
    · exact absurd rfl hrest
    · rw [markAll_append, markAll_cons, ih]
      rfl

theorem writeList_eq_marks (separator : String) (xs : List Expr) :
    p.writeList separator xs = p.markAll (p.patterns.joinedMarks separator xs) := by
  rw [Patterns.joinedMarks, markAll_separated, writeList, List.map_map]
  congr 1
  exact List.map_congr_left fun x _ => p.write_eq_marks x

theorem writeSort_eq_marks (keys : List SortKey) :
    p.writeSort keys = p.markAll (p.patterns.sortMarks keys) := by
  rw [Patterns.sortMarks, markAll_separated, writeSort, List.map_map]
  congr 1
  refine List.map_congr_left ?_
  intro key _
  rw [Function.comp_apply, markAll_append, markAll_singleton, writeKey, write_eq_marks]
  rfl

end Pass

end StoreQuery
