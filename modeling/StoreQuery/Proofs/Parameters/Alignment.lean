import StoreQuery.Proofs.Parameters.Merging
import StoreQuery.Proofs.Parameters.Parts
import StoreQuery.Proofs.Parameters.Passes
import StoreQuery.Proofs.Session.Runs

/-!
# Parameters and the values bound to them

The parameters of a plan are declared in one text and bound by position. They are those of the
condition on objects, then those of the groups and their condition, then those of the columns, and
each clause declares its literals in the order in which its templates ask for them.

* `Frame.parameters` says this of the clauses alone;
* `Frame.parameters_of_assemble` : it is what a plan gathers, label by label;
* `Session.parameters_of_plan` : **so declaration and values are aligned**, labels differ from each
  other and from all variables, and null is never bound.
-/

namespace StoreQuery

/-- How the labels of conditions on objects, of groups and of columns are made. -/
def Config.schemes (c : Config) : List LabelScheme :=
  [filterLabels, c.groupLabels, c.columnLabels]

namespace Frame

variable (f : Frame)

/-- The literals of expressions, in the order in which a clause meets them. -/
def literals (xs : List Expr) : List Value :=
  (xs.flatMap f.config.patterns.leaves).filterMap Leaf.literal?

/-- The parameters of the condition on objects. -/
def filterParameters (c : Clauses) : List Binding :=
  Config.filterLabels.declare f.vars (f.literals c.filter.toList)

/-- The parameters of the groups and of the condition on them. -/
def groupParameters (c : Clauses) : List Binding :=
  if c.groupBy.isEmpty then []
  else f.config.groupLabels.declare f.vars (f.literals (c.groupBy ++ c.having.toList))

/-- The parameters of the columns, if they are written. -/
def columnParameters (columns : List Expr) : Mode → List Binding
  | .count => []
  | _ =>
    if columns.isEmpty || f.isCandidate columns then []
    else f.config.columnLabels.declare f.vars (f.literals columns)

/-- The parameters of a plan. -/
def parameters (c : Clauses) (columns : List Expr) (mode : Mode) : List Binding :=
  f.filterParameters c ++ f.groupParameters c ++ f.columnParameters columns mode

/-- The bindings of a clause are the parameters for the literals of its expressions. -/
theorem entries_of_clause {scheme : LabelScheme} {ms : List Mark} {xs : List Expr} {d : Draft}
    (h : clause ((f.pass scheme).markAll ms) = .ok d)
    (hleaves : (∀ m ∈ ms, m.isRefusal = false) →
      ms.filterMap Mark.leaf? = xs.flatMap f.config.patterns.leaves) :
    d.bindings.entries = scheme.declare f.vars (f.literals xs) := by
  obtain ⟨accepted, -, bindings⟩ := Pass.clause_markAll (clause_eq_ok h)
  have hleaves := hleaves fun m hm => Pass.isRefusal_of_accepts (accepted m hm)
  rw [bindings, Pass.markAll_bindings _ accepted, Pass.entries_foldl_bind _ rfl, literals,
    ← hleaves, List.filterMap_filterMap]
  rfl

theorem entries_of_filterClause {c : Clauses} {filter : FilterClause}
    (h : f.filterClause c = .ok filter) : filter.bindings.entries = f.filterParameters c := by
  unfold filterParameters
  obtain ⟨hc, rfl⟩ | ⟨x, d, hc, hd, rfl⟩ := f.filterClause_eq_ok h
  · rw [hc]
    exact List.zipWith_nil_right.symm
  · rw [hc]
    refine f.entries_of_clause hd ?_
    intro clean
    simpa using Patterns.filterMap_marks _ clean

theorem filterMap_groupMarks {c : Clauses} (h : ∀ m ∈ f.groupMarks c, m.isRefusal = false) :
    (f.groupMarks c).filterMap Mark.leaf? =
      (c.groupBy ++ c.having.toList).flatMap f.config.patterns.leaves := by
  rw [groupMarks, List.filterMap_append, List.flatMap_append,
    Patterns.filterMap_joinedMarks _ fun m hm => h m (List.mem_append_left _ hm)]
  congr 1
  cases hx : c.having with
  | none => rfl
  | some x =>
    simp only [Option.toList_some, List.flatMap_cons, List.flatMap_nil, List.append_nil,
      List.filterMap_cons, Mark.leaf?]
    exact Patterns.filterMap_marks _ fun m hm => h m (by simp [groupMarks, hx, hm])

theorem filterMap_columnMarks {distinct : Bool} {columns : List Expr}
    (h : ∀ m ∈ f.columnMarks distinct columns, m.isRefusal = false) :
    (f.columnMarks distinct columns).filterMap Mark.leaf? =
      columns.flatMap f.config.patterns.leaves := by
  rw [columnMarks, List.filterMap_append,
    Patterns.filterMap_joinedMarks _ fun m hm => h m (List.mem_append_right _ hm)]
  cases distinct <;> simp [List.filterMap_cons, Mark.leaf?]

/-! ### Gathering -/

theorem mergeLabels_eq_ok {parameters merged : Bindings} {d : Draft}
    (h : mergeLabels parameters d = .ok merged) :
    merged.entries = parameters.entries ++ d.bindings.entries ∧
      (parameters.labels.Nodup → merged.labels.Nodup) := by
  obtain ⟨apart, rfl⟩ := mergeLabels_eq_ok_iff.1 h
  exact ⟨rfl, apart.nodup_extend⟩

theorem columnParameters_of_ne_count {columns : List Expr} {mode : Mode} (h : mode ≠ .count) :
    f.columnParameters columns mode = if columns.isEmpty || f.isCandidate columns then []
      else f.config.columnLabels.declare f.vars (f.literals columns) := by
  cases mode <;> first | exact absurd rfl h | rfl

theorem entries_of_grouping {c : Clauses} {parameters merged : Bindings} {text : Option String}
    (h : f.grouping c parameters = .ok (text, merged)) :
    merged.entries = parameters.entries ++ f.groupParameters c ∧
      (parameters.labels.Nodup → merged.labels.Nodup) := by
  unfold groupParameters
  obtain ⟨hempty, -, rfl⟩ | ⟨hempty, d, hd, -, hmerge⟩ := f.grouping_eq_ok h
  · simp [hempty]
  · rw [hempty, if_neg Bool.false_ne_true, ← f.entries_of_clause hd f.filterMap_groupMarks]
    exact mergeLabels_eq_ok hmerge

theorem entries_of_shape {c : Clauses} {columns : List Expr} {mode : Mode}
    {parameters merged : Bindings} {shape : PlanShape}
    (h : f.shape c columns mode parameters = .ok (shape, merged)) :
    merged.entries = parameters.entries ++ f.columnParameters columns mode ∧
      (parameters.labels.Nodup → merged.labels.Nodup) := by
  obtain ⟨rfl, -, rfl⟩ | ⟨hmode, rows, -, hresult, -⟩ := f.shape_eq_ok h
  · exact ⟨(List.append_nil _).symm, id⟩
  rw [f.columnParameters_of_ne_count hmode]
  obtain ⟨hcolumns, -, rfl⟩ | ⟨hcolumns, d, hd, -, hmerge⟩ := f.result_eq_ok hresult
  · simp [hcolumns]
  · rw [hcolumns, if_neg Bool.false_ne_true, ← f.entries_of_clause hd f.filterMap_columnMarks]
    exact mergeLabels_eq_ok hmerge

theorem nodup_labels_of_declare {b : Bindings} {scheme : LabelScheme} {reserved : List String}
    {literals : List Value} (h : b.entries = scheme.declare reserved literals) :
    b.labels.Nodup := by
  rw [Bindings.labels, h, LabelScheme.labels_declare]
  exact scheme.nodup_unreserved reserved _

/-- A plan gathers the parameters of its clauses. -/
theorem parameters_of_assemble {c : Clauses} {columns : List Expr} {filter : FilterClause}
    {mode : Mode} {plan : Plan} (hfilter : f.filterClause c = .ok filter)
    (h : f.assemble c columns filter mode = .ok plan) :
    plan.parameters.entries = f.parameters c columns mode ∧ plan.parameters.labels.Nodup := by
  have first := f.entries_of_filterClause hfilter
  obtain ⟨parameters, hgrouping, hshape, -⟩ := f.assemble_eq_ok h
  obtain ⟨second, nodup⟩ := f.entries_of_grouping hgrouping
  obtain ⟨third, nodup'⟩ := f.entries_of_shape hshape
  refine ⟨?_, nodup' (nodup (nodup_labels_of_declare first))⟩
  rw [third, second, first]
  rfl

theorem mem_parameters {c : Clauses} {columns : List Expr} {mode : Mode} {b : Binding}
    (h : b ∈ f.parameters c columns mode) :
    ∃ scheme ∈ f.config.schemes, ∃ literals, b ∈ LabelScheme.declare scheme f.vars literals := by
  simp only [parameters, List.mem_append] at h
  obtain (h | h) | h := h
  · exact ⟨Config.filterLabels, by simp [Config.schemes], _, h⟩
  · unfold groupParameters at h
    split at h
    · cases h
    · exact ⟨f.config.groupLabels, by simp [Config.schemes], _, h⟩
  · unfold columnParameters at h
    split at h
    · cases h
    · split at h
      · cases h
      · exact ⟨f.config.columnLabels, by simp [Config.schemes], _, h⟩

/-- Every label is made by the scheme of a clause. -/
theorem exists_label_of_mem_parameters {c : Clauses} {columns : List Expr} {mode : Mode}
    {b : Binding} (h : b ∈ f.parameters c columns mode) :
    ∃ scheme ∈ f.config.schemes, ∃ n, LabelScheme.label scheme n = b.label := by
  obtain ⟨scheme, hscheme, literals, h⟩ := f.mem_parameters h
  exact ⟨scheme, hscheme, LabelScheme.exists_label_of_mem_declare h⟩

/-- No label is a variable. -/
theorem label_not_mem_vars {c : Clauses} {columns : List Expr} {mode : Mode} {b : Binding}
    (h : b ∈ f.parameters c columns mode) : b.label ∉ f.vars := by
  obtain ⟨scheme, -, literals, h⟩ := f.mem_parameters h
  have : b.label ∈ (scheme.declare f.vars literals).map (·.label) := List.mem_map_of_mem h
  rw [LabelScheme.labels_declare] at this
  exact scheme.not_mem_reserved_of_mem_unreserved f.vars this

/-- Null is not bound. -/
theorem isNull_of_mem_parameters {c : Clauses} {columns : List Expr} {mode : Mode} {b : Binding}
    (h : b ∈ f.parameters c columns mode) : b.value.isNull = false := by
  obtain ⟨scheme, -, literals, h⟩ := f.mem_parameters h
  have : b.value ∈ (scheme.declare f.vars literals).map (·.value) := List.mem_map_of_mem h
  rw [LabelScheme.values_declare] at this
  exact Value.isNull_of_mem_firsts this

end Frame

theorem Frame.vars_of_ofSources? {config : Config} {sources : List Source} {f : Frame}
    (h : Frame.ofSources? config sources = some f) : f.vars = sources.map (·.var) := by
  cases sources <;> cases h
  rfl

theorem Frame.config_of_ofSources? {config : Config} {sources : List Source} {f : Frame}
    (h : Frame.ofSources? config sources = some f) : f.config = config := by
  cases sources <;> cases h
  rfl

/-- The declaration names the class of each value and then its label. -/
theorem Bindings.declaration_eq (b : Bindings) : b.declaration =
    if b.values.isEmpty then none
    else some (", ".intercalate
      (List.zipWith (fun v label => v.className ++ " " ++ label) b.values b.labels)) := by
  have declared : b.entries.map Bindings.declare =
      List.zipWith (fun v label => v.className ++ " " ++ label) b.values b.labels := by
    simp [Bindings.values, Bindings.labels, List.zipWith_map, List.zipWith_self, Bindings.declare]
  simp [Bindings.declaration, declared, Bindings.values]

namespace Session

variable {σ η : Type} (e : Engine σ η)

/-- **Declaration and values are aligned.** After any run, the parameters of a plan are those of
the condition on objects, of the groups and of the columns, in this order. The declaration lists
the class of each value bound with its label; labels differ from each other and from the variables
of all sources, and null is never bound. -/
theorem parameters_of_plan (config : Config) (calls : List Call) (state : σ) (extra : List Expr)
    (mode : Mode) {plan : Plan}
    (h : ((run e calls (new config, state)).1.plan extra mode).1 = .ok plan) :
    ∃ f, Frame.ofSources? config (run e calls (new config, state)).1.sources = some f ∧
      plan.parameters.entries =
        f.parameters (run e calls (new config, state)).1.clauses
          ((run e calls (new config, state)).1.clauses.addColumns extra).columns mode ∧
      plan.parameters.declaration =
        (if plan.parameters.values.isEmpty then none
        else some (", ".intercalate (List.zipWith (fun v label => v.className ++ " " ++ label)
          plan.parameters.values plan.parameters.labels))) ∧
      plan.parameters.labels.Nodup ∧
      (∀ source ∈ (run e calls (new config, state)).1.sources,
        source.var ∉ plan.parameters.labels) ∧
      ∀ v ∈ plan.parameters.values, v.isNull = false := by
  rw [plan_run] at h
  obtain ⟨f, filter, hf, hfilter, hassemble⟩ := planOf_eq_ok h
  obtain ⟨entries, nodup⟩ := f.parameters_of_assemble hfilter hassemble
  refine ⟨f, hf, entries, plan.parameters.declaration_eq, nodup, ?_, ?_⟩
  · intro source hsource hmem
    obtain ⟨b, hb, hlabel⟩ := List.mem_map.1 hmem
    have := f.label_not_mem_vars (entries ▸ hb)
    rw [hlabel, Frame.vars_of_ofSources? hf] at this
    exact this (List.mem_map_of_mem hsource)
  · intro v hv
    obtain ⟨b, hb, rfl⟩ := List.mem_map.1 hv
    exact f.isNull_of_mem_parameters (entries ▸ hb)

/-- The ages of two or three that several persons have, with two years added. A dog has the name
that the first label would have. -/
def census : List Call :=
  let age := Expr.path ⟨"person", ["age"]⟩
  let two := Expr.literal (.int 2)
  [.addSources [⟨"Person", "person"⟩, ⟨"Dog", "a"⟩],
    .addFilter ((age.between two (.literal (.int 3))).and (age.ne (.literal .null))),
    .groupBy [age], .having (age.count.gt two), .project [age.add two]]

theorem declaration_census :
    ((run refusing census (new Config.default, ())).1.plan [] .unique).1.toOption.bind
      (·.parameters.declaration) = some "Integer b, Integer c, Integer varg1, Integer varp1" := by
  decide +kernel

theorem parameters_of_plan_census :
    ∃ plan f, ((run refusing census (new Config.default, ())).1.plan [] .unique).1 = .ok plan ∧
      Frame.ofSources? .default (run refusing census (new Config.default, ())).1.sources = some f ∧
      plan.parameters.entries =
        f.parameters (run refusing census (new Config.default, ())).1.clauses
          ((run refusing census (new Config.default, ())).1.clauses.addColumns []).columns .unique ∧
      plan.parameters.declaration = some "Integer b, Integer c, Integer varg1, Integer varp1" ∧
      plan.parameters.labels.Nodup := by
  obtain ⟨plan, h, declaration⟩ := exists_of_toOption_bind declaration_census
  obtain ⟨f, hf, entries, -, nodup, -⟩ :=
    parameters_of_plan refusing .default census () [] .unique h
  exact ⟨plan, f, h, hf, entries, declaration, nodup⟩

end Session

end StoreQuery
