import StoreQuery.Proofs.Clause.Leaves
import StoreQuery.Proofs.Steps

/-!
# The parts of a plan

A plan is assembled part by part, and any part may fail. For each part that is written there is one
lemma that says all that it can be: its text and the bindings that it leaves.

* `Frame.groupMarks`, `Frame.columnMarks` : groups and columns are written mark by mark, too;
* `Frame.filterClause_eq_ok`, `Frame.grouping_eq_ok`, `Frame.result_eq_ok`,
  `Frame.ordering_eq_ok`, `Frame.shape_eq_ok` : the parts;
* `Frame.assemble_eq_ok`, `planOf_eq_ok` : the plan.
-/

namespace StoreQuery

/-- A clause that is written has the text and the bindings of its writer. -/
theorem Writer.clause_eq_ok {w : Writer} {d : Draft} (h : w.clause = .ok d) :
    w .empty = ⟨d.text, d.bindings, none⟩ := by
  simp only [clause, Draft.append, Draft.empty] at h
  split at h
  · rename_i draft written
    cases h
    obtain ⟨hdraft, herror⟩ := Prod.mk.inj written
    rw [← hdraft, ← herror]
    simp
  · cases h

namespace Pass

/-- A clause that is written has the text and the bindings of its marks. -/
theorem clause_markAll {p : Pass} {ms : List Mark} {d : Draft}
    (h : (p.markAll ms).clause = .ok d) : (∀ m ∈ ms, p.accepts m = true) ∧
      d.text = (p.markAll ms .empty).text ∧ d.bindings = (p.markAll ms .empty).bindings := by
  have written := Writer.clause_eq_ok h
  refine ⟨(p.markAll_error? ms .empty).1 ?_, ?_, ?_⟩ <;> rw [written]

theorem isRefusal_of_accepts {p : Pass} {m : Mark} (h : p.accepts m = true) :
    m.isRefusal = false := by
  cases m <;> first | rfl | cases h

end Pass

namespace Frame

variable (f : Frame)

@[simp] theorem patterns_pass (scheme : LabelScheme) :
    (f.pass scheme).patterns = f.config.patterns := rfl

theorem clause_eq_ok {w : Writer} {d : Draft} (h : clause w = .ok d) : w.clause = .ok d := by
  unfold clause at h
  cases hw : w.clause with
  | ok d' =>
    rw [hw] at h
    cases h
    rfl
  | error e =>
    rw [hw] at h
    cases h

/-! ### Marks -/

/-- The marks of the groups and of the condition on them. -/
def groupMarks (c : Clauses) : List Mark :=
  f.config.patterns.joinedMarks ", " c.groupBy ++
    (c.having.toList.flatMap fun x => .text " having " :: f.config.patterns.marks x)

theorem groupingWriter_eq_marks (c : Clauses) :
    f.groupingWriter c = (f.pass f.config.groupLabels).markAll (f.groupMarks c) := by
  unfold groupingWriter groupMarks
  cases c.having with
  | none => simp [Pass.writeList_eq_marks]
  | some x =>
    simp only [Pass.writeList_eq_marks, Pass.write_eq_marks, Option.toList_some,
      List.flatMap_cons, List.flatMap_nil, List.append_nil, Pass.markAll_append, Pass.markAll_cons]
    rfl

/-- The marks of columns. -/
def columnMarks (distinct : Bool) (columns : List Expr) : List Mark :=
  (if distinct then [.text "distinct "] else []) ++ f.config.patterns.joinedMarks ", " columns

theorem columnsWriter_eq_marks (distinct : Bool) (columns : List Expr) :
    f.columnsWriter distinct columns =
      (f.pass f.config.columnLabels).markAll (f.columnMarks distinct columns) := by
  unfold columnsWriter columnMarks
  cases distinct with
  | false => simp [Pass.writeList_eq_marks]
  | true =>
    simp only [Pass.writeList_eq_marks, if_true, List.singleton_append, Pass.markAll_cons]
    rfl

/-! ### Parts that are written -/

theorem filterClause_eq_ok {c : Clauses} {filter : FilterClause}
    (h : f.filterClause c = .ok filter) :
    c.filter = none ∧ filter = ⟨none, .empty⟩ ∨
      ∃ x d, c.filter = some x ∧
        clause ((f.pass Config.filterLabels).markAll (f.config.patterns.marks x)) = .ok d ∧
        filter = ⟨some d.text, d.bindings⟩ := by
  unfold filterClause at h
  cases hc : c.filter with
  | none =>
    rw [hc] at h
    cases h
    exact .inl ⟨rfl, rfl⟩
  | some x =>
    rw [hc] at h
    simp only [Pass.write_eq_marks, Except.map] at h
    split at h
    · cases h
    · rename_i d hd
      cases h
      exact .inr ⟨x, d, rfl, hd, rfl⟩

theorem grouping_eq_ok {c : Clauses} {parameters merged : Bindings} {text : Option String}
    (h : f.grouping c parameters = .ok (text, merged)) :
    c.groupBy.isEmpty = true ∧ text = none ∧ merged = parameters ∨
      c.groupBy.isEmpty = false ∧
        ∃ d, clause ((f.pass f.config.groupLabels).markAll (f.groupMarks c)) = .ok d ∧
          text = some d.text ∧ mergeLabels parameters d = .ok merged := by
  unfold grouping at h
  split at h
  · rename_i hempty
    cases h
    exact .inl ⟨hempty, rfl, rfl⟩
  · rename_i hempty
    obtain ⟨d, hd, h⟩ := exists_of_bind_eq_ok h
    obtain ⟨merged', hmerge, h⟩ := exists_of_bind_eq_ok h
    cases h
    rw [groupingWriter_eq_marks] at hd
    exact .inr ⟨Bool.not_eq_true _ ▸ hempty, d, hd, rfl, hmerge⟩

theorem result_eq_ok {c : Clauses} {columns : List Expr} {parameters merged : Bindings}
    {text : Option String} (h : f.result c columns parameters = .ok (text, merged)) :
    (columns.isEmpty || f.isCandidate columns) = true ∧
        text = (if c.distinct then some Plan.distinctThis else none) ∧ merged = parameters ∨
      (columns.isEmpty || f.isCandidate columns) = false ∧
        ∃ d, clause ((f.pass f.config.columnLabels).markAll (f.columnMarks c.distinct columns)) =
            .ok d ∧
          text = some d.text ∧ mergeLabels parameters d = .ok merged := by
  unfold result at h
  split at h
  · rename_i hcolumns
    cases h
    exact .inl ⟨hcolumns, rfl, rfl⟩
  · rename_i hcolumns
    obtain ⟨d, hd, h⟩ := exists_of_bind_eq_ok h
    obtain ⟨merged', hmerge, h⟩ := exists_of_bind_eq_ok h
    cases h
    rw [columnsWriter_eq_marks] at hd
    exact .inr ⟨Bool.not_eq_true _ ▸ hcolumns, d, hd, rfl, hmerge⟩

theorem ordering_eq_ok {c : Clauses} {text : Option String} (h : f.ordering c = .ok text) :
    c.sort.isEmpty = true ∧ text = none ∨
      c.sort.isEmpty = false ∧
        ∃ d, clause (f.plainPass.markAll (f.config.patterns.sortMarks c.sort)) = .ok d ∧
          text = some d.text := by
  unfold ordering at h
  split at h
  · rename_i hempty
    cases h
    exact .inl ⟨hempty, rfl⟩
  · rename_i hempty
    simp only [Pass.writeSort_eq_marks, Except.map] at h
    split at h
    · cases h
    · rename_i d hd
      cases h
      exact .inr ⟨Bool.not_eq_true _ ▸ hempty, d, hd, rfl⟩

theorem rowClauses_eq_ok {c : Clauses} {columns : List Expr} {window : Window} {unique : Bool}
    {parameters merged : Bindings} {rows : RowClauses}
    (h : f.rowClauses c columns window unique parameters = .ok (rows, merged)) :
    f.result c columns parameters = .ok (rows.result, merged) ∧
      f.ordering c = .ok rows.ordering := by
  obtain ⟨⟨text, merged'⟩, hresult, h⟩ := exists_of_bind_eq_ok h
  obtain ⟨ordering, hordering, h⟩ := exists_of_bind_eq_ok h
  cases h
  exact ⟨hresult, hordering⟩

theorem shape_eq_ok {c : Clauses} {columns : List Expr} {mode : Mode}
    {parameters merged : Bindings} {shape : PlanShape}
    (h : f.shape c columns mode parameters = .ok (shape, merged)) :
    mode = .count ∧ shape = .count c.distinct ∧ merged = parameters ∨
      mode ≠ .count ∧ ∃ rows, shape = .rows rows ∧
        f.result c columns parameters = .ok (rows.result, merged) ∧
        f.ordering c = .ok rows.ordering := by
  cases mode with
  | count =>
    cases h
    exact .inl ⟨rfl, rfl, rfl⟩
  | list window =>
    obtain ⟨⟨rows, merged'⟩, hrows, h⟩ := exists_of_bind_eq_ok h
    cases h
    exact .inr ⟨nofun, rows, rfl, f.rowClauses_eq_ok hrows⟩
  | unique =>
    obtain ⟨⟨rows, merged'⟩, hrows, h⟩ := exists_of_bind_eq_ok h
    cases h
    exact .inr ⟨nofun, rows, rfl, f.rowClauses_eq_ok hrows⟩

theorem assemble_eq_ok {c : Clauses} {columns : List Expr} {filter : FilterClause} {mode : Mode}
    {plan : Plan} (h : f.assemble c columns filter mode = .ok plan) :
    ∃ parameters, f.grouping c filter.bindings = .ok (plan.grouping, parameters) ∧
      f.shape c columns mode parameters = .ok (plan.shape, plan.parameters) ∧
      plan.filter = filter.text := by
  obtain ⟨⟨grouping, parameters⟩, hgrouping, h⟩ := exists_of_bind_eq_ok h
  obtain ⟨⟨shape, merged⟩, hshape, h⟩ := exists_of_bind_eq_ok h
  cases h
  exact ⟨parameters, hgrouping, hshape, rfl⟩

end Frame

theorem planOf_eq_ok {config : Config} {sources : List Source} {c : Clauses} {extra : List Expr}
    {mode : Mode} {plan : Plan} (h : planOf config sources c extra mode = .ok plan) :
    ∃ f filter, Frame.ofSources? config sources = some f ∧ f.filterClause c = .ok filter ∧
      f.assemble c (c.addColumns extra).columns filter mode = .ok plan := by
  unfold planOf at h
  split at h
  · cases h
  · rename_i f hf
    obtain ⟨filter, hfilter, h⟩ := exists_of_bind_eq_ok h
    exact ⟨f, filter, hf, hfilter, h⟩

end StoreQuery
