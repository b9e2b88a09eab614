import StoreQuery.Proofs.Clause.Replacing
import StoreQuery.Proofs.Parameters.Parts
import StoreQuery.Proofs.Session.Runs

/-!
# Plans with other literals

No text of a plan depends on the literals of its query. What they are shows in the values bound
alone, and which of them are equal shows in the labels.

* `Frame.assemble_mapLiterals` : a plan is assembled alike for other literals that compare alike;
* `Session.run_mapLiterals` : the same calls with other literals leave the same clauses
  with other literals;
* `Session.plan_mapLiterals` : **a session with other literals that compare alike fails alike or
  plans the same texts and labels**, with the other literals bound.
-/

namespace StoreQuery

/-- The condition on objects with labels for other values. -/
def FilterClause.mapValues (g : Value → Value) (filter : FilterClause) : FilterClause :=
  { filter with bindings := filter.bindings.mapValues g }

/-- The plan with the same texts and labels, and other values bound. -/
def Plan.mapValues (g : Value → Value) (plan : Plan) : Plan :=
  { plan with parameters := plan.parameters.mapValues g }

/-- Labels are merged without a look at the values. -/
theorem Bindings.merge_mapValues (g : Value → Value) (b : Bindings) (entries : List Binding) :
    (b.mapValues g).merge (entries.map (Binding.mapValue g)) =
      ((b.merge entries).1.mapValues g, (b.merge entries).2) := by
  induction entries generalizing b with
  | nil => rfl
  | cons e entries ih =>
    have taken : ((b.mapValues g).entries.any fun d => d.label == (e.mapValue g).label) =
        b.entries.any fun d => d.label == e.label := by
      simp [mapValues, Binding.mapValue, List.any_map, Function.comp_def]
    rw [List.map_cons, merge, merge, taken]
    split
    · rfl
    · rw [← ih]
      simp [mapValues]

namespace Frame

variable (f : Frame) {g : Value → Value} {vs : List Value}

theorem mergeLabels_mapValues (parameters : Bindings) (d : Draft) :
    mergeLabels (parameters.mapValues g) (d.mapValues g) =
      (mergeLabels parameters d).map (Bindings.mapValues g) := by
  unfold mergeLabels
  have merged := Bindings.merge_mapValues g parameters d.bindings.entries
  simp only [Draft.mapValues, Bindings.mapValues] at merged ⊢
  rw [merged]
  rcases parameters.merge d.bindings.entries with ⟨b, _ | label⟩ <;> rfl

theorem isCandidate_mapLiterals (columns : List Expr) :
    f.isCandidate (columns.map (Expr.mapLiterals g)) = f.isCandidate columns := by
  rcases columns with _ | ⟨x, _ | ⟨y, columns⟩⟩
  · rfl
  · exact Expr.isSource_mapLiterals g f.candidate x
  · rfl

/-! ### Marks of the parts -/

theorem groupMarks_mapLiterals (c : Clauses) :
    f.groupMarks (c.mapLiterals g) = (f.groupMarks c).map (Mark.mapLiteral g) := by
  simp only [groupMarks, Clauses.mapLiterals, Patterns.joinedMarks_mapLiterals, List.map_append]
  cases c.having with
  | none => rfl
  | some x => simp [Patterns.marks_mapLiterals, Mark.mapLiteral]

theorem columnMarks_mapLiterals (distinct : Bool) (columns : List Expr) :
    f.columnMarks distinct (columns.map (Expr.mapLiterals g)) =
      (f.columnMarks distinct columns).map (Mark.mapLiteral g) := by
  simp only [columnMarks, Patterns.joinedMarks_mapLiterals, List.map_append]
  cases distinct <;> rfl

theorem mem_literals_of_mem_joinedMarks {P : Patterns} {separator : String} {xs : List Expr}
    {m : Mark} (hm : m ∈ P.joinedMarks separator xs) {v : Value} (hv : m.literal? = some v) :
    v ∈ xs.flatMap Expr.literals := by
  rcases Mark.exists_of_mem_separated hm with rfl | ⟨ms, hms, hm⟩
  · cases hv
  · obtain ⟨x, hx, rfl⟩ := List.mem_map.1 hms
    exact List.mem_flatMap.2 ⟨x, hx, P.mem_literals_of_mem_marks hm hv⟩

theorem mem_literals_of_mem_sortMarks {P : Patterns} {keys : List SortKey} {m : Mark}
    (hm : m ∈ P.sortMarks keys) {v : Value} (hv : m.literal? = some v) :
    v ∈ (keys.map (·.target)).flatMap Expr.literals := by
  rcases Mark.exists_of_mem_separated hm with rfl | ⟨ms, hms, hm⟩
  · cases hv
  · obtain ⟨key, hkey, rfl⟩ := List.mem_map.1 hms
    rcases List.mem_append.1 hm with hm | hm
    · exact List.mem_flatMap.2
        ⟨key.target, List.mem_map_of_mem hkey, P.mem_literals_of_mem_marks hm hv⟩
    · obtain rfl := List.mem_singleton.1 hm
      cases hv

theorem mem_literals_of_mem_groupMarks {c : Clauses} {m : Mark} (hm : m ∈ f.groupMarks c)
    {v : Value} (hv : m.literal? = some v) : v ∈ c.literals := by
  rcases List.mem_append.1 hm with hm | hm
  · obtain ⟨x, hx, hv⟩ := List.mem_flatMap.1 (mem_literals_of_mem_joinedMarks hm hv)
    exact List.mem_flatMap.2 ⟨x, by simp [Clauses.exprs, hx], hv⟩
  · obtain ⟨x, hx, hm⟩ := List.mem_flatMap.1 hm
    rcases List.mem_cons.1 hm with rfl | hm
    · cases hv
    · exact List.mem_flatMap.2 ⟨x, by simp [Clauses.exprs, Option.mem_toList.1 hx],
        Patterns.mem_literals_of_mem_marks _ hm hv⟩

theorem mem_literals_of_mem_columnMarks {distinct : Bool} {columns : List Expr} {m : Mark}
    (hm : m ∈ f.columnMarks distinct columns) {v : Value} (hv : m.literal? = some v) :
    v ∈ columns.flatMap Expr.literals := by
  rcases List.mem_append.1 hm with hm | hm
  · cases distinct with
    | false => cases hm
    | true =>
      obtain rfl := List.mem_singleton.1 hm
      cases hv
  · exact mem_literals_of_mem_joinedMarks hm hv

/-! ### Parts in step -/

section Parts

variable (hg : Value.Faithful g vs)
include hg

theorem clause_mapLiterals (p : Pass) {ms : List Mark}
    (hms : ∀ m ∈ ms, ∀ v, m.literal? = some v → v ∈ vs) :
    clause (p.markAll (ms.map (Mark.mapLiteral g))) =
      (clause (p.markAll ms)).map (Draft.mapValues g) := by
  unfold clause
  rw [p.clause_mapLiterals hg hms]
  cases (p.markAll ms).clause <;> rfl

theorem result_mapLiterals (c : Clauses) {columns : List Expr}
    (hcolumns : columns.flatMap Expr.literals ⊆ vs) (parameters : Bindings) :
    f.result (c.mapLiterals g) (columns.map (Expr.mapLiterals g)) (parameters.mapValues g) =
      (f.result c columns parameters).map (Prod.map id (Bindings.mapValues g)) := by
  unfold result
  rw [List.isEmpty_map, isCandidate_mapLiterals, columnsWriter_eq_marks, columnsWriter_eq_marks,
    columnMarks_mapLiterals]
  split
  · rfl
  · refine bind_eq_map_bind (clause_mapLiterals hg _ fun m hm v hv =>
      hcolumns (f.mem_literals_of_mem_columnMarks hm hv)) ?_
    intro d
    exact bind_eq_map_bind (mergeLabels_mapValues parameters d) fun _ => rfl

variable {c : Clauses} (hc : c.literals ⊆ vs)
include hc

theorem filterClause_mapLiterals : f.filterClause (c.mapLiterals g) =
    (f.filterClause c).map (FilterClause.mapValues g) := by
  simp only [filterClause, Clauses.mapLiterals]
  cases hx : c.filter with
  | none => rfl
  | some x =>
    have within : ∀ m ∈ f.config.patterns.marks x, ∀ v, m.literal? = some v → v ∈ vs := by
      intro m hm v hv
      exact hc (List.mem_flatMap.2
        ⟨x, by simp [Clauses.exprs, hx], Patterns.mem_literals_of_mem_marks _ hm hv⟩)
    have written := clause_mapLiterals hg (f.pass Config.filterLabels) within
    simp only [Option.map_some, Pass.write_eq_marks, patterns_pass, Patterns.marks_mapLiterals,
      written]
    cases clause ((f.pass Config.filterLabels).markAll (f.config.patterns.marks x)) <;> rfl

theorem grouping_mapLiterals (parameters : Bindings) :
    f.grouping (c.mapLiterals g) (parameters.mapValues g) =
      (f.grouping c parameters).map (Prod.map id (Bindings.mapValues g)) := by
  have empty : (c.mapLiterals g).groupBy.isEmpty = c.groupBy.isEmpty := List.isEmpty_map
  unfold grouping
  rw [empty, groupingWriter_eq_marks, groupingWriter_eq_marks, groupMarks_mapLiterals]
  split
  · rfl
  · refine bind_eq_map_bind (clause_mapLiterals hg _ fun m hm v hv =>
      hc (f.mem_literals_of_mem_groupMarks hm hv)) ?_
    intro d
    exact bind_eq_map_bind (mergeLabels_mapValues parameters d) fun _ => rfl

theorem ordering_mapLiterals : f.ordering (c.mapLiterals g) = f.ordering c := by
  have empty : (c.mapLiterals g).sort.isEmpty = c.sort.isEmpty := List.isEmpty_map
  unfold ordering
  rw [empty, Pass.writeSort_eq_marks, Pass.writeSort_eq_marks]
  split
  · rfl
  · have within : ∀ m ∈ f.config.patterns.sortMarks c.sort, ∀ v, m.literal? = some v → v ∈ vs := by
      intro m hm v hv
      obtain ⟨x, hx, hv⟩ := List.mem_flatMap.1 (mem_literals_of_mem_sortMarks hm hv)
      exact hc (List.mem_flatMap.2 ⟨x, List.mem_append_right _ hx, hv⟩)
    have written := clause_mapLiterals hg f.plainPass within
    simp only [Clauses.mapLiterals, Patterns.sortMarks_mapLiterals, plainPass] at written ⊢
    rw [written]
    cases clause (Pass.markAll ⟨f.config.patterns, f.candidate, none, []⟩
      (f.config.patterns.sortMarks c.sort)) <;> rfl

variable {columns : List Expr} (hcolumns : columns.flatMap Expr.literals ⊆ vs)
include hcolumns

theorem rowClauses_mapLiterals (window : Window) (unique : Bool) (parameters : Bindings) :
    f.rowClauses (c.mapLiterals g) (columns.map (Expr.mapLiterals g)) window unique
        (parameters.mapValues g) =
      (f.rowClauses c columns window unique parameters).map
        (Prod.map id (Bindings.mapValues g)) := by
  unfold rowClauses
  refine bind_eq_map_bind (f.result_mapLiterals hg c hcolumns parameters) ?_
  rintro ⟨result, merged⟩
  rw [f.ordering_mapLiterals hg hc]
  cases f.ordering c <;> rfl

theorem shape_mapLiterals (mode : Mode) (parameters : Bindings) :
    f.shape (c.mapLiterals g) (columns.map (Expr.mapLiterals g)) mode (parameters.mapValues g) =
      (f.shape c columns mode parameters).map (Prod.map id (Bindings.mapValues g)) := by
  cases mode with
  | count => rfl
  | list window =>
    exact bind_eq_map_bind (f.rowClauses_mapLiterals hg hc hcolumns window false parameters)
      fun _ => rfl
  | unique =>
    exact bind_eq_map_bind (f.rowClauses_mapLiterals hg hc hcolumns (.first 1) true parameters)
      fun _ => rfl

/-- A plan is assembled alike for other literals that compare alike. -/
theorem assemble_mapLiterals (filter : FilterClause) (mode : Mode) :
    f.assemble (c.mapLiterals g) (columns.map (Expr.mapLiterals g)) (filter.mapValues g) mode =
      (f.assemble c columns filter mode).map (Plan.mapValues g) := by
  refine bind_eq_map_bind (f.grouping_mapLiterals hg hc filter.bindings) ?_
  rintro ⟨grouping, parameters⟩
  exact bind_eq_map_bind (f.shape_mapLiterals hg hc hcolumns mode parameters) fun _ => rfl

end Parts

end Frame

theorem planOf_mapLiterals {g : Value → Value} {c : Clauses} {extra : List Expr}
    (hg : Value.Faithful g (c.literals ++ extra.flatMap Expr.literals)) (config : Config)
    (sources : List Source) (mode : Mode) :
    planOf config sources (c.mapLiterals g) (extra.map (Expr.mapLiterals g)) mode =
      (planOf config sources c extra mode).map (Plan.mapValues g) := by
  have columns : ((c.mapLiterals g).addColumns (extra.map (Expr.mapLiterals g))).columns =
      (c.addColumns extra).columns.map (Expr.mapLiterals g) :=
    congrArg Clauses.columns (Clauses.addColumns_mapExprs (Expr.keepsShape_mapLiterals g) c extra)
  have hc : c.literals ⊆ c.literals ++ extra.flatMap Expr.literals := List.subset_append_left _ _
  unfold planOf
  cases Frame.ofSources? config sources with
  | none => rfl
  | some f =>
    rw [columns]
    refine bind_eq_map_bind (f.filterClause_mapLiterals hg hc) ?_
    intro filter
    exact f.assemble_mapLiterals hg hc (c.literals_columns_subset extra) filter mode

/-! ### Calls -/

/-- Replace every literal of a call. -/
def Call.mapLiterals (g : Value → Value) : Call → Call
  | .addFilter x => .addFilter (x.mapLiterals g)
  | .groupBy xs => .groupBy (xs.map (Expr.mapLiterals g))
  | .having x => .having (x.mapLiterals g)
  | .orderBy keys => .orderBy (keys.map (SortKey.mapLiterals g))
  | .project xs => .project (xs.map (Expr.mapLiterals g))
  | .plan extra mode => .plan (extra.map (Expr.mapLiterals g)) mode
  | .explain extra mode => .explain (extra.map (Expr.mapLiterals g)) mode
  | .list x => .list (x.mapLiterals g)
  | .listMany xs => .listMany (xs.map (Expr.mapLiterals g))
  | .uniqueResult x => .uniqueResult (x.mapLiterals g)
  | .page x => .page (x.mapLiterals g)
  | call => call

theorem Call.mapLiterals_eq_map (g : Value → Value) :
    Call.mapLiterals g = Call.map (Expr.mapLiterals g) id := by
  funext call
  cases call with
  | addSources sources => rw [Call.map, List.map_id]; rfl
  | _ => rfl

namespace Session

variable {σ η σ' η' : Type} (e : Engine σ η) (e' : Engine σ' η')

/-- The same calls with other literals leave the same clauses with other literals. -/
theorem run_mapLiterals (g : Value → Value) (config : Config) (calls : List Call) (state : σ)
    (state' : σ') :
    (run e' (calls.map (Call.mapLiterals g)) (new config, state')).1.sources =
        (run e calls (new config, state)).1.sources ∧
      (run e' (calls.map (Call.mapLiterals g)) (new config, state')).1.clauses =
        (run e calls (new config, state)).1.clauses.mapLiterals g := by
  obtain ⟨sources, clauses⟩ :=
    run_map e e' (Expr.keepsShape_mapLiterals g) id config calls state state'
  rw [Call.mapLiterals_eq_map]
  exact ⟨sources.trans (List.map_id _), clauses⟩

/-- **Literals leave no trace in the texts.** Replace the literals of a session, and of the columns
asked for, by others that compare alike: then the session fails with the same error, or plans the
same texts and labels with the other literals bound. Such a session is reached by the same calls
with other literals, whatever the engines answer. -/
theorem plan_mapLiterals (config : Config) (calls : List Call) (state : σ) (state' : σ')
    (extra : List Expr) (mode : Mode) {g : Value → Value}
    (hg : Value.Faithful g
      ((run e calls (new config, state)).1.clauses.literals ++ extra.flatMap Expr.literals)) :
    (∀ calls', (run e' calls' (new config, state')).1.sources =
        (run e calls (new config, state)).1.sources →
      (run e' calls' (new config, state')).1.clauses =
        (run e calls (new config, state)).1.clauses.mapLiterals g →
      ((run e' calls' (new config, state')).1.plan (extra.map (Expr.mapLiterals g)) mode).1 =
        ((run e calls (new config, state)).1.plan extra mode).1.map (Plan.mapValues g)) ∧
    (run e' (calls.map (Call.mapLiterals g)) (new config, state')).1.sources =
      (run e calls (new config, state)).1.sources ∧
    (run e' (calls.map (Call.mapLiterals g)) (new config, state')).1.clauses =
      (run e calls (new config, state)).1.clauses.mapLiterals g := by
  refine ⟨?_, run_mapLiterals e e' g config calls state state'⟩
  intro calls' hsources hclauses
  rw [plan_run, plan_run, hsources, hclauses]
  exact planOf_mapLiterals hg config _ mode

/-! Zeros and numbers that are none -/

/-- A number compared with both zeros and twice with the same NaN. -/
def comparisons : List Call :=
  let x := Expr.path ⟨"person", ["x"]⟩
  let number (bits : UInt64) := Expr.literal (.double ⟨bits⟩)
  [.addSources [⟨"Person", "person"⟩],
    .addFilter ((x.ne (number 0)).and (x.ne (number 0x8000000000000000))),
    .addFilter ((x.lt (number 0x7FF8000000000000)).or (x.gt (number 0x7FF8000000000000))),
    .project [x.eq (.literal .null)]]

/-- Both zeros become a text, and a NaN becomes an object that has it as its field. -/
def disguise : Value → Value
  | .double x => if x.isZero then .string "none" else .object [("x", .double x)]
  | v => v

theorem plan_comparisons :
    ((run refusing comparisons (new Config.default, ())).1.plan [] .unique).1.toOption.bind
      (fun plan => some (plan.filter, plan.parameters.labels)) =
        some (some "x != a && x != a && (x < b || x > c)", ["a", "b", "c"]) := by
  decide +kernel

theorem plan_disguised_comparisons :
    ∃ plan, ((run refusing comparisons (new Config.default, ())).1.plan [] .unique).1 = .ok plan ∧
      plan.filter = some "x != a && x != a && (x < b || x > c)" ∧
      plan.parameters.labels = ["a", "b", "c"] ∧
      ((run refusing (comparisons.map (Call.mapLiterals disguise)) (new Config.default, ())).1.plan
        [] .unique).1 = .ok (plan.mapValues disguise) := by
  obtain ⟨plan, h, hplan⟩ := exists_of_toOption_bind plan_comparisons
  obtain ⟨filter, labels⟩ := Prod.mk.inj (Option.some.inj hplan)
  have faithful : Value.Faithful disguise
      ((run refusing comparisons (new Config.default, ())).1.clauses.literals ++ []) :=
    ⟨by decide +kernel, by decide +kernel⟩
  obtain ⟨alike, sources, clauses⟩ :=
    plan_mapLiterals refusing refusing .default comparisons () () [] .unique faithful
  refine ⟨plan, h, filter, labels, ?_⟩
  rw [h] at alike
  exact alike _ sources clauses

end Session

end StoreQuery
