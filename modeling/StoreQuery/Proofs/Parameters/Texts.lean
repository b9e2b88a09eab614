import StoreQuery.Proofs.Parameters.Alignment

/-!
# The texts of a plan

A plan has a text for the condition on objects, one for the groups, one for the result and one for
the order. Each is written mark by mark, and where a literal is there stands the label of a
parameter.

* `Plan.texts` lists the texts of a plan, and `Frame.marks` the marks of each;
* `Frame.spells_of_assemble` : **each text is made of what stands for the pieces of its marks**,
  given the parameters of the whole plan.
-/

namespace StoreQuery

/-- The texts of a plan: the condition on objects, the groups, the result and the order. -/
def Plan.texts (p : Plan) : List String :=
  p.filter.toList ++ p.grouping.toList ++ p.result.toList ++ p.ordering.toList

namespace Frame

variable (f : Frame)

/-- The marks of the result of a plan with rows. The candidate itself is not written. -/
def resultMarks (c : Clauses) (columns : List Expr) : List (List Mark) :=
  if columns.isEmpty || f.isCandidate columns then
    if c.distinct then [[.text Plan.distinctThis]] else []
  else [f.columnMarks c.distinct columns]

/-- The marks of the result and of the order. -/
def shapeMarks (c : Clauses) (columns : List Expr) : Mode → List (List Mark)
  | .count => [[.text (if c.distinct then Plan.distinctCountResult else Plan.countResult)]]
  | _ => f.resultMarks c columns ++
    (if c.sort.isEmpty then [] else [f.config.patterns.sortMarks c.sort])

/-- The marks of the texts of a plan, text by text. -/
def marks (c : Clauses) (columns : List Expr) (mode : Mode) : List (List Mark) :=
  c.filter.toList.map f.config.patterns.marks ++
    (if c.groupBy.isEmpty then [] else [f.groupMarks c]) ++ f.shapeMarks c columns mode

theorem shapeMarks_of_ne_count {c : Clauses} {columns : List Expr} {mode : Mode}
    (h : mode ≠ .count) : f.shapeMarks c columns mode = f.resultMarks c columns ++
      (if c.sort.isEmpty then [] else [f.config.patterns.sortMarks c.sort]) := by
  cases mode <;> first | exact absurd rfl h | rfl

/-- The text is made of what stands for the pieces of the marks, with the given bindings. -/
def Spells (b : Bindings) (ms : List Mark) (text : String) : Prop :=
  ∃ texts, List.Forall₂ (f.plainPass.Stands b) (ms.map Mark.piece) texts ∧
    text = String.join texts

variable {f}

theorem Spells.mono {b b' : Bindings} (h : b.entries ⊆ b'.entries) {ms : List Mark}
    {text : String} (hs : f.Spells b ms text) : f.Spells b' ms text := by
  obtain ⟨texts, stand, join⟩ := hs
  exact ⟨texts, stand.imp fun _ _ => f.plainPass.stands_mono h, join⟩

theorem spells_text (b : Bindings) (s : String) : f.Spells b [.text s] s :=
  ⟨[s], .cons rfl .nil, by simp [String.join]⟩

theorem spells_of_clause {p : Pass} (hp : p.candidate = f.candidate) {ms : List Mark} {d : Draft}
    (h : clause (p.markAll ms) = .ok d) : f.Spells d.bindings ms d.text := by
  obtain ⟨accepted, text, bindings⟩ := Pass.clause_markAll (clause_eq_ok h)
  obtain ⟨texts, stand, join⟩ := p.markAll_spells accepted .empty
  rw [← bindings] at stand
  rw [← text] at join
  exact ⟨texts, stand.imp fun _ _ => Pass.stands_congr hp, join⟩

theorem spells_of_mergeLabels {p : Pass} (hp : p.candidate = f.candidate) {ms : List Mark}
    {d : Draft} {parameters merged : Bindings} (h : clause (p.markAll ms) = .ok d)
    (hmerge : mergeLabels parameters d = .ok merged) : f.Spells merged ms d.text := by
  refine (spells_of_clause hp h).mono ?_
  rw [(mergeLabels_eq_ok hmerge).1]
  exact List.subset_append_right _ _

theorem spells_of_filterClause {c : Clauses} {filter : FilterClause}
    (h : f.filterClause c = .ok filter) :
    List.Forall₂ (f.Spells filter.bindings) (c.filter.toList.map f.config.patterns.marks)
      filter.text.toList := by
  obtain ⟨hc, rfl⟩ | ⟨x, d, hc, hd, rfl⟩ := f.filterClause_eq_ok h
  · rw [hc]
    exact .nil
  · rw [hc]
    exact .cons (spells_of_clause rfl hd) .nil

theorem spells_of_grouping {c : Clauses} {parameters merged : Bindings} {text : Option String}
    (h : f.grouping c parameters = .ok (text, merged)) :
    List.Forall₂ (f.Spells merged) (if c.groupBy.isEmpty then [] else [f.groupMarks c])
      text.toList := by
  obtain ⟨hempty, rfl, -⟩ | ⟨hempty, d, hd, rfl, hmerge⟩ := f.grouping_eq_ok h
  · rw [hempty]
    exact .nil
  · rw [hempty]
    exact .cons (spells_of_mergeLabels rfl hd hmerge) .nil

theorem spells_of_result {c : Clauses} {columns : List Expr} {parameters merged : Bindings}
    {text : Option String} (h : f.result c columns parameters = .ok (text, merged)) :
    List.Forall₂ (f.Spells merged) (f.resultMarks c columns) text.toList := by
  unfold resultMarks
  obtain ⟨hcolumns, rfl, -⟩ | ⟨hcolumns, d, hd, rfl, hmerge⟩ := f.result_eq_ok h
  · rw [hcolumns, if_pos rfl]
    cases c.distinct with
    | false => exact .nil
    | true => exact .cons (spells_text _ _) .nil
  · rw [hcolumns]
    exact .cons (spells_of_mergeLabels rfl hd hmerge) .nil

theorem spells_of_ordering {c : Clauses} {text : Option String} (h : f.ordering c = .ok text)
    (b : Bindings) :
    List.Forall₂ (f.Spells b) (if c.sort.isEmpty then [] else [f.config.patterns.sortMarks c.sort])
      text.toList := by
  obtain ⟨hempty, rfl⟩ | ⟨hempty, d, hd, rfl⟩ := f.ordering_eq_ok h
  · rw [hempty]
    exact .nil
  · rw [hempty]
    have unbound : d.bindings.entries = [] := by
      obtain ⟨accepted, -, bindings⟩ := Pass.clause_markAll (clause_eq_ok hd)
      rw [bindings, Pass.markAll_bindings _ accepted, Pass.foldl_bind_of_none rfl]
      rfl
    refine .cons ((spells_of_clause rfl hd).mono ?_) .nil
    rw [unbound]
    exact List.nil_subset _

theorem spells_of_shape {c : Clauses} {columns : List Expr} {mode : Mode} {parameters : Bindings}
    {plan : Plan} (h : f.shape c columns mode parameters = .ok (plan.shape, plan.parameters)) :
    List.Forall₂ (f.Spells plan.parameters) (f.shapeMarks c columns mode)
      (plan.result.toList ++ plan.ordering.toList) := by
  unfold Plan.result Plan.ordering
  obtain ⟨rfl, hshape, -⟩ | ⟨hmode, rows, hshape, hresult, hordering⟩ := f.shape_eq_ok h
  · rw [hshape]
    exact .cons (spells_text _ _) .nil
  · rw [hshape, f.shapeMarks_of_ne_count hmode]
    exact List.rel_append (spells_of_result hresult) (spells_of_ordering hordering _)

/-- **The texts of a plan are made of what stands for the pieces of their marks.** -/
theorem spells_of_assemble {c : Clauses} {columns : List Expr} {filter : FilterClause}
    {mode : Mode} {plan : Plan} (hfilter : f.filterClause c = .ok filter)
    (h : f.assemble c columns filter mode = .ok plan) :
    List.Forall₂ (f.Spells plan.parameters) (f.marks c columns mode) plan.texts := by
  obtain ⟨parameters, hgrouping, hshape, htext⟩ := f.assemble_eq_ok h
  have grouped : parameters.entries ⊆ plan.parameters.entries := by
    rw [(f.entries_of_shape hshape).1]
    exact List.subset_append_left _ _
  have filtered : filter.bindings.entries ⊆ parameters.entries := by
    rw [(f.entries_of_grouping hgrouping).1]
    exact List.subset_append_left _ _
  rw [Plan.texts, List.append_assoc, htext]
  refine List.rel_append (List.rel_append ?_ ?_) (spells_of_shape hshape)
  · exact (spells_of_filterClause hfilter).imp fun _ _ => .mono (List.Subset.trans filtered grouped)
  · exact (spells_of_grouping hgrouping).imp fun _ _ => .mono grouped

end Frame

end StoreQuery
