import StoreQuery.Proofs.Clause.Leaves
import StoreQuery.Proofs.Expr.Literals

/-!
# Clauses with other literals

A clause is written twice, the second time with other literals that compare as the first ones do.
The two writings go in step: a literal gets the label that the other one got, whatever the values
are, so that the texts are the same and only the values of the bindings differ.

* `Patterns.marks_mapLiterals` : the marks of the second expression are those of the first, with
  the literals replaced;
* `Pass.markAll_mapLiterals` : **writing the marks with other literals writes the same text, ends
  in the same error, and gives the same labels.**
-/

namespace StoreQuery

/-! ### The same with other values -/

/-- Replace the literal at a leaf. -/
def Leaf.mapLiteral (f : Value → Value) : Leaf → Leaf
  | .literal v => .literal (f v)
  | l => l

/-- Replace the literal at a mark. -/
def Mark.mapLiteral (f : Value → Value) : Mark → Mark
  | .leaf l => .leaf (l.mapLiteral f)
  | m => m

/-- The label stands for another value. -/
def Binding.mapValue (f : Value → Value) (e : Binding) : Binding := { e with value := f e.value }

namespace Bindings

/-- The labels stand for other values. -/
def mapValues (f : Value → Value) (b : Bindings) : Bindings :=
  { b with entries := b.entries.map (Binding.mapValue f) }

end Bindings

/-- A step with the same text and the same end, and labels for other values. -/
def Written.mapValues (f : Value → Value) (w : Written) : Written :=
  { w with bindings := w.bindings.mapValues f }

/-- A clause with the same text and labels for other values. -/
def Draft.mapValues (f : Value → Value) (d : Draft) : Draft :=
  { d with bindings := d.bindings.mapValues f }

/-! ### Marks -/

namespace Patterns

variable (P : Patterns) (f : Value → Value)

theorem operandMarks_mapLiterals (op : Operator) (index : Nat) (enclosed : Bool) (x : Expr)
    (ms : List Mark) :
    operandMarks op index enclosed (x.mapLiterals f, ms.map (Mark.mapLiteral f)) =
      (operandMarks op index enclosed (x, ms)).map (Mark.mapLiteral f) := by
  unfold operandMarks
  rw [(Expr.keepsShape_mapLiterals f).needsParens]
  split
  · simp [Mark.mapLiteral]
  · rfl

theorem slotMarks_mapLiterals (op : Operator) (operands : List (Expr × List Mark))
    (s : Segment × Bool) :
    slotMarks op (operands.map fun x => (x.1.mapLiterals f, x.2.map (Mark.mapLiteral f))) s =
      (slotMarks op operands s).map (Mark.mapLiteral f) := by
  obtain ⟨s | index, enclosed⟩ := s
  · rfl
  · simp only [slotMarks, List.getElem?_map]
    cases operands[index]? with
    | none => rfl
    | some x => exact operandMarks_mapLiterals f op index enclosed x.1 x.2

/-- The marks are the same but for the literals. -/
theorem marks_mapLiterals (e : Expr) :
    P.marks (e.mapLiterals f) = (P.marks e).map (Mark.mapLiteral f) := by
  induction e with
  | literal | path | className | construct => rfl
  | apply op xs ih =>
    have operands : (xs.map fun x => (x.mapLiterals f, P.marks (x.mapLiterals f))) =
        (xs.map fun x => (x, P.marks x)).map fun x =>
          (x.1.mapLiterals f, x.2.map (Mark.mapLiteral f)) := by
      rw [List.map_map]
      exact List.map_congr_left fun x hx => by rw [ih x hx]; rfl
    -- Neither the number of operands nor the class test looks at a literal.
    simp only [Expr.mapLiterals, Expr.mapLiteralsOfAll_eq_map, marks, marksOfAll_eq_map,
      applicationMarks, List.length_map, List.map_map, Function.comp_def]
    have fits : fits op (xs.map fun x => x.mapLiterals f) = fits op (xs.map fun x => x) := by
      rw [List.map_id']
      exact (Expr.keepsShape_mapLiterals f).fits op xs
    rw [fits, operands]
    split
    · rfl
    split
    · rw [List.map_flatMap]
      exact List.flatMap_congr fun s _ => slotMarks_mapLiterals f op _ s
    · rfl

theorem separated_mapLiteral (separator : String) (mss : List (List Mark)) :
    Mark.separated separator (mss.map (List.map (Mark.mapLiteral f))) =
      (Mark.separated separator mss).map (Mark.mapLiteral f) := by
  fun_induction Mark.separated separator mss with
  | case1 => rfl
  | case2 ms => rfl
  | case3 ms rest hrest ih =>
    obtain _ | ⟨ms', rest⟩ := rest
    · exact absurd rfl hrest
    · show List.map _ ms ++
        .text separator :: Mark.separated separator (List.map _ (ms' :: rest)) = _
      rw [ih, List.map_append]
      rfl

theorem joinedMarks_mapLiterals (separator : String) (xs : List Expr) :
    P.joinedMarks separator (xs.map (Expr.mapLiterals f)) =
      (P.joinedMarks separator xs).map (Mark.mapLiteral f) := by
  simp only [joinedMarks, ← separated_mapLiteral, List.map_map, Function.comp_def,
    marks_mapLiterals]

theorem sortMarks_mapLiterals (keys : List SortKey) :
    P.sortMarks (keys.map (SortKey.mapLiterals f)) =
      (P.sortMarks keys).map (Mark.mapLiteral f) := by
  simp [sortMarks, ← separated_mapLiteral, SortKey.mapLiterals, Function.comp_def,
    marks_mapLiterals, Mark.mapLiteral]

/-! ### Literals among the marks -/

theorem literal?_slotMarks {op : Operator} {xs : List Expr} {s : Segment × Bool} {m : Mark}
    (hm : m ∈ slotMarks op (xs.map fun x => (x, P.marks x)) s) {v : Value}
    (hv : m.literal? = some v) : ∃ x ∈ xs, m ∈ P.marks x := by
  obtain ⟨s | index, enclosed⟩ := s
  · obtain rfl := List.mem_singleton.1 hm
    cases hv
  · simp only [slotMarks, List.getElem?_map] at hm
    cases hx : xs[index]? with
    | none =>
      rw [hx] at hm
      obtain rfl := List.mem_singleton.1 hm
      cases hv
    | some x =>
      rw [hx] at hm
      rcases mem_operandMarks hm with hm | rfl | rfl
      · exact ⟨x, List.mem_of_getElem? hx, hm⟩
      · cases hv
      · cases hv

/-- Every literal that is written is a literal of the expression. -/
theorem mem_literals_of_mem_marks {e : Expr} {m : Mark} (hm : m ∈ P.marks e) {v : Value}
    (hv : m.literal? = some v) : v ∈ e.literals := by
  induction e generalizing m with
  | literal w =>
    obtain rfl := List.mem_singleton.1 hm
    obtain rfl : w = v := Option.some.inj hv
    exact List.mem_singleton_self w
  | path | className | construct =>
    obtain rfl := List.mem_singleton.1 hm
    cases hv
  | apply op xs ih =>
    simp only [marks, marksOfAll_eq_map, applicationMarks] at hm
    split at hm
    · obtain rfl := List.mem_singleton.1 hm
      cases hv
    split at hm
    · obtain ⟨s, -, hm⟩ := List.mem_flatMap.1 hm
      obtain ⟨x, hx, hm⟩ := P.literal?_slotMarks hm hv
      rw [Expr.literals_apply]
      exact List.mem_flatMap.2 ⟨x, hx, ih x hx hm hv⟩
    · obtain rfl := List.mem_singleton.1 hm
      cases hv

end Patterns

/-! ### Two writings in step -/

/-- Every value with a label is one of the given ones. -/
def Bindings.Within (b : Bindings) (vs : List Value) : Prop := ∀ e ∈ b.entries, e.value ∈ vs

namespace Bindings

variable {f : Value → Value} {vs : List Value} (hf : Value.Faithful f vs) {b : Bindings}
  (hb : b.Within vs) {v : Value} (hv : v ∈ vs)
include hf hb hv

/-- The values compare as before, so that the same one is found. -/
theorem labelOf?_mapValues : (b.mapValues f).labelOf? (f v) = b.labelOf? v := by
  obtain ⟨entries, next⟩ := b
  simp only [labelOf?, mapValues]
  induction entries with
  | nil => rfl
  | cons e entries ih =>
    have rest : (Bindings.mk entries next).Within vs := fun d hd => hb d (List.mem_cons_of_mem e hd)
    have head : (f e.value == f v) = (e.value == v) := hf.beq _ (hb e List.mem_cons_self) v hv
    simp only [List.map_cons, List.find?_cons, Binding.mapValue, head]
    cases e.value == v with
    | true => rfl
    | false => exact ih rest

theorem labelFor_mapValues (scheme : LabelScheme) (reserved : List String) :
    (b.mapValues f).labelFor (f v) scheme reserved =
      ((b.labelFor v scheme reserved).1, (b.labelFor v scheme reserved).2.mapValues f) := by
  unfold labelFor
  rw [labelOf?_mapValues hf hb hv]
  cases b.labelOf? v with
  | some label => rfl
  | none => simp [assign, mapValues, Binding.mapValue]

end Bindings

namespace Pass

variable (p : Pass) {f : Value → Value} {vs : List Value}

/-- A literal adds no value but its own. -/
theorem within_bind {b : Bindings} (hb : b.Within vs) {v : Value} (hv : v ∈ vs) :
    (p.bind b v).Within vs := by
  unfold bind
  split
  · rename_i scheme _ _
    unfold Bindings.labelFor
    split
    · exact hb
    · intro e he
      rcases List.mem_append.1 he with he | he
      · exact hb e he
      · obtain rfl := List.mem_singleton.1 he
        exact hv
  · exact hb

theorem within_mark {b : Bindings} (hb : b.Within vs) {m : Mark}
    (hm : ∀ v, m.literal? = some v → v ∈ vs) : (p.mark m b).bindings.Within vs := by
  rw [mark_bindings]
  cases hv : m.literal? with
  | none => exact hb
  | some v => exact p.within_bind hb (hm v hv)

theorem mark_mapLiteral (hf : Value.Faithful f vs) {b : Bindings} (hb : b.Within vs) {m : Mark}
    (hm : ∀ v, m.literal? = some v → v ∈ vs) :
    p.mark (m.mapLiteral f) (b.mapValues f) = (p.mark m b).mapValues f := by
  match m with
  | .text _ | .refuse _ | .leaf (.path _) | .leaf (.className _) => rfl
  | .leaf (.literal v) =>
    have hv : v ∈ vs := hm v rfl
    simp only [Mark.mapLiteral, Leaf.mapLiteral, mark, leaf, literal, hf.isNull v hv]
    cases v.isNull with
    | true => rfl
    | false =>
      cases p.scheme? with
      | none => rfl
      | some scheme =>
        simp only [Bindings.labelFor_mapValues hf hb hv]
        rfl

/-- **Writing marks with other literals** writes the same text, ends in the same error and gives
the same labels, to the values in place of the first ones. -/
theorem markAll_mapLiterals (hf : Value.Faithful f vs) {ms : List Mark}
    (hms : ∀ m ∈ ms, ∀ v, m.literal? = some v → v ∈ vs) {b : Bindings} (hb : b.Within vs) :
    p.markAll (ms.map (Mark.mapLiteral f)) (b.mapValues f) = (p.markAll ms b).mapValues f := by
  induction ms generalizing b with
  | nil => rfl
  | cons m ms ih =>
    rw [List.forall_mem_cons] at hms
    have head := p.mark_mapLiteral hf hb hms.1
    have rest := ih hms.2 (p.within_mark hb hms.1)
    rw [List.map_cons, markAll_cons, markAll_cons]
    simp only [Writer.andThen, head]
    generalize p.mark m b = w at rest ⊢
    obtain ⟨text, bindings, _ | e⟩ := w
    · simp only [Written.mapValues] at rest ⊢
      rw [rest]
    · rfl

theorem clause_mapLiterals (hf : Value.Faithful f vs) {ms : List Mark}
    (hms : ∀ m ∈ ms, ∀ v, m.literal? = some v → v ∈ vs) :
    (p.markAll (ms.map (Mark.mapLiteral f))).clause =
      (p.markAll ms).clause.map (Draft.mapValues f) := by
  have nothing : Bindings.empty.Within vs := by
    rintro _ ⟨⟩
  have written : p.markAll (ms.map (Mark.mapLiteral f)) .empty =
      (p.markAll ms .empty).mapValues f := p.markAll_mapLiterals hf hms nothing
  simp only [Writer.clause, Draft.append, Draft.empty, written, Written.mapValues]
  cases (p.markAll ms .empty).error? <;> rfl

end Pass

end StoreQuery
