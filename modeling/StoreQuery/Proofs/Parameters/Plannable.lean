import StoreQuery.Proofs.Clause.Refusals
import StoreQuery.Proofs.Parameters.Alignment
import StoreQuery.Proofs.Parameters.Families

/-!
# Which queries can be planned

Planning fails if there is no source, if an expression cannot be written, or if two clauses give
the same label. By default labels of different clauses are apart, so that only the first two are
left, and these can be told from the clauses.

* `Frame.grouping_succeedsIff`, `Frame.result_succeedsIff` and the like : the parts of a plan;
* `Clauses.Plannable` : what the clauses must fulfil;
* `Session.plan_isOk_iff_plannable` : **a session plans exactly if it has a source and its clauses
  fulfil this.**
-/

namespace StoreQuery

namespace Pass

/-- Writing a clause succeeds exactly if it accepts all marks. -/
theorem clause_succeedsIff (p : Pass) (ms : List Mark) :
    SucceedsIff (Frame.clause (p.markAll ms)) (∀ m ∈ ms, p.accepts m = true) := by
  rw [← p.markAll_error? ms .empty]
  simp only [Frame.clause, Writer.clause, Draft.append, Draft.empty]
  cases (p.markAll ms .empty).error? with
  | none => exact (SucceedsIff.ok _).congr (by simp)
  | some e =>
    refine ⟨by simp [Except.mapError], ?_⟩
    rintro _ ⟨⟩
    exact ⟨e, rfl⟩

end Pass

namespace Frame

variable (f : Frame)

/-! ### Labels that are new -/

theorem exists_label_of_mem_filterParameters {c : Clauses} {b : Binding}
    (h : b ∈ f.filterParameters c) : ∃ n, Config.filterLabels.label n = b.label :=
  LabelScheme.exists_label_of_mem_declare h

theorem exists_label_of_mem_groupParameters {c : Clauses} {b : Binding}
    (h : b ∈ f.groupParameters c) : ∃ n, f.config.groupLabels.label n = b.label := by
  unfold groupParameters at h
  split at h
  · cases h
  · exact LabelScheme.exists_label_of_mem_declare h

/-- Labels of groups are new among those of the condition on objects. -/
theorem fresh_groupLabels (hapart : f.config.KeepsApart) {c : Clauses} {parameters : Bindings}
    (h : parameters.entries = f.filterParameters c) :
    ∀ b ∈ parameters.entries, ∀ n, b.label ≠ f.config.groupLabels.label n := by
  intro b hb n
  obtain ⟨m, hm⟩ := f.exists_label_of_mem_filterParameters (h ▸ hb)
  rw [← hm]
  exact hapart.filter_group m n

/-- Labels of columns are new among those of the condition on objects and of the groups. -/
theorem fresh_columnLabels (hapart : f.config.KeepsApart) {c : Clauses} {parameters : Bindings}
    (h : parameters.entries = f.filterParameters c ++ f.groupParameters c) :
    ∀ b ∈ parameters.entries, ∀ n, b.label ≠ f.config.columnLabels.label n := by
  intro b hb n
  rw [h] at hb
  rcases List.mem_append.1 hb with hb | hb
  · obtain ⟨m, hm⟩ := f.exists_label_of_mem_filterParameters hb
    rw [← hm]
    exact hapart.filter_column m n
  · obtain ⟨m, hm⟩ := f.exists_label_of_mem_groupParameters hb
    rw [← hm]
    exact hapart.group_column m n

/-- Labels of a scheme can be added to labels of others. -/
theorem exists_mergeLabels {parameters : Bindings} {d : Draft} {scheme : LabelScheme}
    {reserved : List String} {literals : List Value}
    (hd : d.bindings.entries = scheme.declare reserved literals)
    (fresh : ∀ b ∈ parameters.entries, ∀ n, b.label ≠ scheme.label n) :
    ∃ merged, mergeLabels parameters d = .ok merged := by
  have apart : ∀ e ∈ d.bindings.entries, e.label ∉ parameters.labels := by
    intro e he hmem
    obtain ⟨n, hn⟩ := LabelScheme.exists_label_of_mem_declare (hd ▸ he)
    obtain ⟨b, hb, hlabel⟩ := List.mem_map.1 hmem
    exact fresh b hb n (hlabel.trans hn.symm)
  exact ⟨_, mergeLabels_eq_ok_iff.2 ⟨⟨nodup_labels_of_declare hd, apart⟩, rfl⟩⟩

/-- A clause with labels of its own succeeds, merging included, if it accepts all marks. -/
theorem declare_succeedsIff {scheme : LabelScheme} {ms : List Mark} {xs : List Expr}
    {parameters : Bindings}
    (hleaves : (∀ m ∈ ms, m.isRefusal = false) →
      ms.filterMap Mark.leaf? = xs.flatMap f.config.patterns.leaves)
    (fresh : ∀ b ∈ parameters.entries, ∀ n, b.label ≠ scheme.label n) :
    SucceedsIff (do
      let d ← clause ((f.pass scheme).markAll ms)
      return (some d.text, ← mergeLabels parameters d))
      (∀ m ∈ ms, (f.pass scheme).accepts m = true) := by
  refine (Pass.clause_succeedsIff _ _).bind_ok ?_
  intro d hd
  obtain ⟨merged, hmerged⟩ := exists_mergeLabels (f.entries_of_clause hd hleaves) fresh
  exact ⟨(some d.text, merged), by rw [hmerged]; rfl⟩

/-! ### The parts of a plan -/

theorem wellFormed_of_isCandidate {columns : List Expr} (h : f.isCandidate columns = true) :
    ∀ x ∈ columns, x.WellFormed := by
  rcases columns with _ | ⟨x, _ | ⟨y, columns⟩⟩
  · cases h
  · cases x with
    | path q => simp [Expr.WellFormed.path]
    | _ => cases h
  · cases h

section

variable {f} (hwithin : f.config.patterns.WithinArity) (hall : f.config.patterns.AsksForAll)
include hwithin hall

theorem filterClause_succeedsIff (c : Clauses) :
    SucceedsIff (f.filterClause c) (∀ x ∈ c.filter, x.WellFormed) := by
  unfold filterClause
  cases c.filter with
  | none => exact (SucceedsIff.ok _).congr (by simp)
  | some x =>
    have condition := (f.pass Config.filterLabels).forall_accepts_iff hwithin hall (e := x)
    simp only [Pass.write_eq_marks]
    exact ((Pass.clause_succeedsIff _ _).map _).congr (condition.trans (by simp [pass]))

theorem forall_accepts_groupMarks_iff (c : Clauses) :
    (∀ m ∈ f.groupMarks c, (f.pass f.config.groupLabels).accepts m = true) ↔
      (∀ x ∈ c.groupBy, x.WellFormed) ∧ ∀ x ∈ c.having, x.WellFormed := by
  have labels : (f.pass f.config.groupLabels).scheme? ≠ none := nofun
  have groups := (f.pass f.config.groupLabels).forall_accepts_joined_iff hwithin hall ", " c.groupBy
  rw [groupMarks, List.forall_mem_append]
  refine and_congr (groups.trans (by simp [labels])) ?_
  cases c.having with
  | none => simp
  | some x =>
    have condition := (f.pass f.config.groupLabels).forall_accepts_iff hwithin hall (e := x)
    simp only [Option.toList_some, List.flatMap_cons, List.flatMap_nil, List.append_nil,
      List.forall_mem_cons, Option.mem_some_iff, forall_eq']
    exact (and_iff_right rfl).trans (condition.trans (by simp [labels]))

theorem grouping_succeedsIff {c : Clauses} {parameters : Bindings}
    (hapart : f.config.KeepsApart) (hparameters : parameters.entries = f.filterParameters c)
    (grouped : c.Grouped) :
    SucceedsIff (f.grouping c parameters)
      ((∀ x ∈ c.groupBy, x.WellFormed) ∧ ∀ x ∈ c.having, x.WellFormed) := by
  unfold grouping
  by_cases hempty : c.groupBy = []
  · have none : c.having = none := by
      by_contra h
      exact grouped h hempty
    rw [hempty, none]
    exact (SucceedsIff.ok _).congr (by simp)
  · rw [if_neg (by simpa using hempty), groupingWriter_eq_marks,
      ← forall_accepts_groupMarks_iff hwithin hall]
    exact f.declare_succeedsIff f.filterMap_groupMarks (f.fresh_groupLabels hapart hparameters)

theorem forall_accepts_columnMarks_iff (distinct : Bool) (columns : List Expr) :
    (∀ m ∈ f.columnMarks distinct columns, (f.pass f.config.columnLabels).accepts m = true) ↔
      ∀ x ∈ columns, x.WellFormed := by
  have list := (f.pass f.config.columnLabels).forall_accepts_joined_iff hwithin hall ", " columns
  have word : ∀ m ∈ if distinct then [Mark.text "distinct "] else [],
      (f.pass f.config.columnLabels).accepts m = true := by
    intro m hm
    cases distinct <;> simp at hm
    rw [hm]
    rfl
  rw [columnMarks, List.forall_mem_append]
  exact (and_iff_right word).trans (list.trans (by simp [pass]))

theorem result_succeedsIff {c : Clauses} {columns : List Expr} {parameters : Bindings}
    (hapart : f.config.KeepsApart)
    (hparameters : parameters.entries = f.filterParameters c ++ f.groupParameters c) :
    SucceedsIff (f.result c columns parameters) (∀ x ∈ columns, x.WellFormed) := by
  unfold result
  by_cases hwritten : (columns.isEmpty || f.isCandidate columns) = true
  · rw [if_pos hwritten]
    refine (SucceedsIff.ok _).congr ⟨fun _ => ?_, fun _ => trivial⟩
    rcases Bool.or_eq_true_iff.1 hwritten with hempty | hcandidate
    · rw [List.isEmpty_iff.1 hempty]
      exact nofun
    · exact f.wellFormed_of_isCandidate hcandidate
  · rw [if_neg hwritten, columnsWriter_eq_marks,
      ← forall_accepts_columnMarks_iff hwithin hall c.distinct]
    exact f.declare_succeedsIff f.filterMap_columnMarks (f.fresh_columnLabels hapart hparameters)

theorem ordering_succeedsIff (c : Clauses) : SucceedsIff (f.ordering c)
    (∀ key ∈ c.sort, key.target.WellFormed ∧ ∀ v ∈ key.target.literals, v.isNull = true) := by
  unfold ordering
  by_cases hempty : c.sort = []
  · rw [hempty]
    exact (SucceedsIff.ok _).congr (by simp)
  · have keys := f.plainPass.forall_accepts_sort_iff hwithin hall c.sort
    rw [if_neg (by simpa using hempty), Pass.writeSort_eq_marks]
    exact ((Pass.clause_succeedsIff _ _).map _).congr (keys.trans (by simp [plainPass]))

theorem rowClauses_succeedsIff {c : Clauses} {columns : List Expr} {window : Window}
    {unique : Bool} {parameters : Bindings} (hapart : f.config.KeepsApart)
    (hparameters : parameters.entries = f.filterParameters c ++ f.groupParameters c) :
    SucceedsIff (f.rowClauses c columns window unique parameters)
      ((∀ x ∈ columns, x.WellFormed) ∧
        ∀ key ∈ c.sort, key.target.WellFormed ∧ ∀ v ∈ key.target.literals, v.isNull = true) := by
  unfold rowClauses
  refine (result_succeedsIff hwithin hall hapart hparameters).bind ?_
  rintro ⟨result, merged⟩ -
  exact (ordering_succeedsIff hwithin hall c).bind_ok fun ordering _ => ⟨_, rfl⟩

theorem shape_succeedsIff {c : Clauses} {columns : List Expr} {mode : Mode}
    {parameters : Bindings} (hapart : f.config.KeepsApart)
    (hparameters : parameters.entries = f.filterParameters c ++ f.groupParameters c) :
    SucceedsIff (f.shape c columns mode parameters)
      (mode ≠ .count → (∀ x ∈ columns, x.WellFormed) ∧
        ∀ key ∈ c.sort, key.target.WellFormed ∧ ∀ v ∈ key.target.literals, v.isNull = true) := by
  have rows (window : Window) (unique : Bool) :
      SucceedsIff (f.rowClauses c columns window unique parameters) _ :=
    rowClauses_succeedsIff hwithin hall hapart hparameters
  unfold shape
  cases mode with
  | count => exact (SucceedsIff.ok _).congr (by simp)
  | list window => exact ((rows window false).bind_ok fun _ _ => ⟨_, rfl⟩).congr (by simp)
  | unique => exact ((rows (.first 1) true).bind_ok fun _ _ => ⟨_, rfl⟩).congr (by simp)

end

end Frame

/-! ### Plans -/

/-- What the clauses of a query must fulfil to be planned with `extra` columns. Only plans that
count look neither at the order nor at the columns. -/
structure Clauses.Plannable (c : Clauses) (extra : List Expr) (mode : Mode) : Prop where
  /-- The condition on objects is well formed. -/
  filter : ∀ x ∈ c.filter, x.WellFormed
  /-- What is grouped by is well formed. -/
  groupBy : ∀ x ∈ c.groupBy, x.WellFormed
  /-- The condition on groups is well formed. -/
  having : ∀ x ∈ c.having, x.WellFormed
  /-- What is sorted by is well formed. -/
  sort : mode ≠ .count → ∀ key ∈ c.sort, key.target.WellFormed
  /-- What is sorted by holds no literal but null. -/
  sort_literals : mode ≠ .count → ∀ key ∈ c.sort, ∀ v ∈ key.target.literals, v.isNull = true
  /-- The columns are well formed. An object that is made stands for its parts, but in none of them
  an object is made again. -/
  columns : mode ≠ .count → ∀ x ∈ c.columns ++ extra.flatMap Clauses.flatten, x.WellFormed

section

variable {config : Config} (hwithin : config.patterns.WithinArity)
  (hall : config.patterns.AsksForAll) (hapart : config.KeepsApart)
include hwithin hall hapart

theorem Frame.assemble_succeedsIff {f : Frame} (hf : f.config = config) {c : Clauses}
    {columns : List Expr} {filter : FilterClause} {mode : Mode}
    (hfilter : f.filterClause c = .ok filter) (grouped : c.Grouped) :
    SucceedsIff (f.assemble c columns filter mode)
      (((∀ x ∈ c.groupBy, x.WellFormed) ∧ ∀ x ∈ c.having, x.WellFormed) ∧
        (mode ≠ .count → (∀ x ∈ columns, x.WellFormed) ∧ ∀ key ∈ c.sort,
          key.target.WellFormed ∧ ∀ v ∈ key.target.literals, v.isNull = true)) := by
  subst hf
  have first := f.entries_of_filterClause hfilter
  unfold Frame.assemble
  refine (Frame.grouping_succeedsIff hwithin hall hapart first grouped).bind ?_
  rintro ⟨grouping, parameters⟩ hgrouping
  have second := (f.entries_of_grouping hgrouping).1
  rw [first] at second
  exact (Frame.shape_succeedsIff hwithin hall hapart second).bind_ok fun _ _ => ⟨_, rfl⟩

/-- If labels of different clauses are apart, a query with a source can be planned exactly if its
clauses fulfil what they must. -/
theorem planOf_succeedsIff {source : Source} {sources : List Source} {c : Clauses}
    (grouped : c.Grouped) (extra : List Expr) (mode : Mode) :
    SucceedsIff (planOf config (source :: sources) c extra mode) (c.Plannable extra mode) := by
  have filter : SucceedsIff (Frame.filterClause ⟨config, source, sources⟩ c) _ :=
    Frame.filterClause_succeedsIff hwithin hall c
  unfold planOf Frame.ofSources?
  refine (filter.bind fun filter hfilter =>
    Frame.assemble_succeedsIff hwithin hall hapart rfl hfilter grouped).congr ?_
  constructor
  · rintro ⟨filter, ⟨groupBy, having⟩, rows⟩
    exact ⟨filter, groupBy, having, fun h key hkey => ((rows h).2 key hkey).1,
      fun h key hkey => ((rows h).2 key hkey).2, fun h => (rows h).1⟩
  · rintro ⟨filter, groupBy, having, sort, literals, columns⟩
    exact ⟨filter, ⟨groupBy, having⟩, fun h =>
      ⟨columns h, fun key hkey => ⟨sort h key hkey, literals h key hkey⟩⟩⟩

end

namespace Session

variable {σ η : Type} (e : Engine σ η)

/-- An object may be made of columns, but not of objects that are made of columns themselves. -/
example : ¬ Clauses.empty.Plannable [.construct "Pair" [.construct "Pair" []]] .unique := by
  intro h
  cases h.columns nofun _ (List.mem_singleton_self _)

end Session

end StoreQuery
