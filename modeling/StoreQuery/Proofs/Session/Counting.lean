import StoreQuery.Proofs.Parameters.Alignment

/-!
# Counting what is listed

A page is counted by one plan and listed by another. Both are written from the same clauses, and
the count leaves out what comes last: the columns, the order and the window.

* `Plan.Counts` : a plan counts the objects from which another makes its rows;
* `Clauses.CountAlike` : clauses that differ only where a count does not look;
* `Session.counts_of_plans` : **whatever is planned can be counted, and a count depends on nothing
  else.**
-/

namespace StoreQuery

/-- The plan counts the objects from which the other makes its rows. -/
structure Plan.Counts (counted plan : Plan) : Prop where
  /-- The objects are of the same class. -/
  primaryClass : counted.primaryClass = plan.primaryClass
  /-- The condition on them is written alike. -/
  filter : counted.filter = plan.filter
  /-- The other sources are declared alike. -/
  auxiliary : counted.auxiliary = plan.auxiliary
  /-- The groups and their condition are written alike. -/
  grouping : counted.grouping = plan.grouping
  /-- The parameters are the first of the other plan, with the same labels and values. -/
  parameters : counted.parameters.entries <+: plan.parameters.entries
  /-- No rows are chosen. -/
  range : counted.range = none
  /-- Nothing is sorted. -/
  ordering : counted.ordering = none

/-- The clauses differ in their columns, their order and their window only. -/
structure Clauses.CountAlike (c d : Clauses) : Prop where
  /-- The conditions on objects are the same. -/
  filter : c.filter = d.filter
  /-- They group by the same. -/
  groupBy : c.groupBy = d.groupBy
  /-- The conditions on groups are the same. -/
  having : c.having = d.having
  /-- Both ask for equal rows once, or neither does. -/
  distinct : c.distinct = d.distinct

namespace Frame

variable (f : Frame)

/-- A count is written as far as the groups and no further. -/
theorem assemble_count (c : Clauses) (columns : List Expr) (filter : FilterClause) :
    f.assemble c columns filter .count = (f.grouping c filter.bindings).map fun grouped =>
      ⟨f.candidate.className, filter.text, f.declaration, grouped.1, .count c.distinct,
        grouped.2⟩ := by
  unfold assemble
  cases f.grouping c filter.bindings <;> rfl

theorem filterClause_congr {c d : Clauses} (h : c.filter = d.filter) :
    f.filterClause c = f.filterClause d := by
  rw [filterClause, filterClause, h]

theorem grouping_congr {c d : Clauses} (hgroupBy : c.groupBy = d.groupBy)
    (hhaving : c.having = d.having) (parameters : Bindings) :
    f.grouping c parameters = f.grouping d parameters := by
  have written : f.groupingWriter c = f.groupingWriter d := by
    rw [groupingWriter, groupingWriter, hgroupBy, hhaving]
  rw [grouping, grouping, hgroupBy, written]

/-- What a plan is made of besides its clauses. -/
theorem sources_of_assemble {c : Clauses} {columns : List Expr} {filter : FilterClause}
    {mode : Mode} {plan : Plan} (h : f.assemble c columns filter mode = .ok plan) :
    plan.primaryClass = f.candidate.className ∧ plan.auxiliary = f.declaration := by
  obtain ⟨⟨grouping, parameters⟩, -, h⟩ := exists_of_bind_eq_ok h
  obtain ⟨⟨shape, merged⟩, -, h⟩ := exists_of_bind_eq_ok h
  cases h
  exact ⟨rfl, rfl⟩

/-- What is assembled for rows can be assembled for a count. The columns come last and only append
to the parameters. -/
theorem exists_assemble_count {c : Clauses} {columns : List Expr} {filter : FilterClause}
    {mode : Mode} {plan : Plan} (h : f.assemble c columns filter mode = .ok plan)
    (columns' : List Expr) :
    ∃ counted, f.assemble c columns' filter .count = .ok counted ∧ counted.Counts plan := by
  obtain ⟨parameters, hgrouping, hshape, hfilter⟩ := f.assemble_eq_ok h
  obtain ⟨hclass, hauxiliary⟩ := f.sources_of_assemble h
  refine ⟨_, by rw [assemble_count, hgrouping]; rfl, ?_⟩
  exact {
    primaryClass := hclass.symm
    filter := hfilter.symm
    auxiliary := hauxiliary.symm
    grouping := rfl
    parameters := ⟨_, (f.entries_of_shape hshape).1.symm⟩
    range := rfl
    ordering := rfl }

end Frame

section

variable {config : Config} {sources : List Source}

/-- What can be planned can be counted. -/
theorem exists_planOf_count {c : Clauses} {extra : List Expr} {mode : Mode} {plan : Plan}
    (h : planOf config sources c extra mode = .ok plan) (extra' : List Expr) :
    ∃ counted, planOf config sources c extra' .count = .ok counted ∧ counted.Counts plan := by
  obtain ⟨f, filter, hf, hfilter, hassemble⟩ := planOf_eq_ok h
  obtain ⟨counted, hcounted, counts⟩ :=
    f.exists_assemble_count hassemble (c.addColumns extra').columns
  refine ⟨counted, ?_, counts⟩
  simp only [planOf, hf, hfilter]
  exact hcounted

/-- A count looks at nothing that such clauses differ in. -/
theorem planOf_count_congr {c d : Clauses} (h : c.CountAlike d) (extra extra' : List Expr) :
    planOf config sources c extra .count = planOf config sources d extra' .count := by
  unfold planOf
  cases Frame.ofSources? config sources with
  | none => rfl
  | some f =>
    simp only [f.assemble_count, f.filterClause_congr h.filter,
      f.grouping_congr h.groupBy h.having, h.distinct]

end

namespace Session

variable {σ η : Type} {e : Engine σ η}

/-- What is kept of a plan depends neither on its columns nor on its mode. -/
theorem plan_snd_eq (s : Session η) (extra extra' : List Expr) (mode mode' : Mode) :
    (s.plan extra mode).2 = (s.plan extra' mode').2 := by
  unfold plan
  cases Frame.ofSources? s.config s.sources with
  | none => rfl
  | some f =>
    dsimp only
    rcases s.filterClause f with ⟨_ | _, t⟩ <;> rfl

/-- The columns that are planned for a count make no difference. -/
theorem plan_count_eq {s : Session η} (hs : s.Coherent) (extra extra' : List Expr) :
    s.plan extra .count = s.plan extra' .count := by
  refine Prod.ext ?_ (s.plan_snd_eq extra extra' .count .count)
  rw [plan_eq_planOf hs, plan_eq_planOf hs]
  exact planOf_count_congr ⟨rfl, rfl, rfl, rfl⟩ extra extra'

/-- A page is counted as the query is. -/
theorem ask_count_eq {s : Session η} (hs : s.Coherent) (state : σ) (extra : List Expr) :
    s.ask e state extra .count Output.total = s.count e state := by
  unfold count ask
  rw [plan_count_eq hs extra []]

/-- **Rows and their number are about the same objects.** Take any session that calls have made. If
it can be planned in some way, then its count can be planned, whatever columns are asked for in
addition, and the plan for the count is the other up to its groups: class, sources, condition on
objects, groups, and the parameters of these. The count depends on sources, conditions, groups and
on whether equal rows are wanted once: any other session that calls have made with the same of these
is counted by the same plan. -/
theorem counts_of_plans {config : Config} {s : Session η} (hs : Reached e config s) :
    (∀ extra extra' mode plan, (s.plan extra mode).1 = .ok plan →
      ∃ counted, (s.plan extra' .count).1 = .ok counted ∧ counted.Counts plan) ∧
    ∀ {σ' η' : Type} {e' : Engine σ' η'} {t : Session η'}, Reached e' config t →
      t.sources = s.sources → t.clauses.CountAlike s.clauses →
      ∀ extra extra', (t.plan extra .count).1 = (s.plan extra' .count).1 := by
  constructor
  · intro extra extra' mode plan h
    rw [plan_eq_planOf hs.coherent] at h ⊢
    exact exists_planOf_count h extra'
  · intro σ' η' e' t ht hsources hclauses extra extra'
    rw [plan_eq_planOf ht.coherent, plan_eq_planOf hs.coherent, ht.config_eq, hs.config_eq,
      hsources]
    exact planOf_count_congr hclauses extra extra'

/-- The census, sorted, in part and with another column. -/
def sortedCensus : List Call :=
  let age := Expr.path ⟨"person", ["age"]⟩
  census ++ [.orderBy [⟨age, .descending⟩], .limit 3, .offset 1, .project [age]]

theorem counts_of_plans_census :
    let s := (run refusing census (new .default, ())).1
    let t := (run refusing sortedCensus (new .default, ())).1
    ∃ plan counted, (s.plan [] .unique).1 = .ok plan ∧ (s.plan [] .count).1 = .ok counted ∧
      counted.Counts plan ∧
      plan.parameters.declaration = some "Integer b, Integer c, Integer varg1, Integer varp1" ∧
      (t.plan [] .count).1 = .ok counted := by
  obtain ⟨plan, h, declaration⟩ := exists_of_toOption_bind declaration_census
  have reached (calls : List Call) : Reached refusing .default (run refusing calls _).1 :=
    Reached.new.run calls ()
  obtain ⟨counts, alike⟩ := counts_of_plans (reached census)
  obtain ⟨counted, hcounted, hcounts⟩ := counts [] [] .unique plan h
  refine ⟨plan, counted, h, hcounted, hcounts, declaration, ?_⟩
  exact (alike (reached sortedCensus) rfl ⟨rfl, rfl, rfl, rfl⟩ [] []).trans hcounted

end Session

end StoreQuery
