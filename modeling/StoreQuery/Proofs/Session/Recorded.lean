import StoreQuery.Proofs.Parameters.Declaration

/-!
# What the recorder records

A session that asks does what its plans announce. With the recorder as its engine this can be read
off the records: a plan that fails leaves none, and any other is recorded as it is, run once, and
takes one output off the script.

* `Plan.record` : what is recorded of a plan that was run once;
* `Session.Follows`, `Session.PageFollows` : an answer does what a plan announces, or what the plan
  of a count and then the plan of a list announce;
* `Session.answers_follow_plans` : **every answer does.**
-/

namespace StoreQuery

/-- What is recorded of a plan that was run once and not released since. -/
def Plan.record (p : Plan) : Record where
  primaryClass := p.primaryClass
  filter := p.filter
  auxiliary := p.auxiliary
  parameters := p.parameters.declaration
  grouping := p.grouping
  range := p.range
  result := p.result
  ordering := p.ordering
  unique := p.isUnique
  bound := if p.parameters.values.isEmpty then none else some p.parameters.values
  executions := 1
  closes := 0

namespace Record

/-! ### Settings -/

/-- A setting that there may be is noted in a field of its own. -/
theorem foldl_note_optional {α : Type} (o : Option α) {setting : α → Setting} {r : Record}
    (field : Option α → Record) (hnone : r = field none)
    (hsome : ∀ a, r.note (setting a) = field (some a)) :
    (o.map setting).toList.foldl note r = field o := by
  cases o with
  | none => exact hnone
  | some a => exact hsome a

/-- The settings of a plan make its record, except for the run. -/
theorem foldl_note_settings (p : Plan) : p.settings.foldl note (prepared p.primaryClass) =
    { p.record with bound := none, executions := 0 } := by
  let r := prepared p.primaryClass
  simp only [Plan.settings, List.foldl_append]
  -- Each setting that there is is noted, in the order in which the plan lists them.
  rw [foldl_note_optional p.filter fun filter => { r with filter },
    foldl_note_optional p.auxiliary fun auxiliary => { r with filter := p.filter, auxiliary },
    foldl_note_optional p.grouping fun grouping =>
      { r with filter := p.filter, auxiliary := p.auxiliary, grouping },
    foldl_note_optional p.range fun range =>
      { r with filter := p.filter, auxiliary := p.auxiliary, grouping := p.grouping, range },
    foldl_note_optional p.result fun result =>
      { p.record with
        result, ordering := none, parameters := none, unique := false, bound := none,
        executions := 0 },
    foldl_note_optional p.ordering fun ordering =>
      { p.record with
        ordering, parameters := none, unique := false, bound := none, executions := 0 },
    foldl_note_optional p.parameters.declaration fun parameters =>
      { p.record with parameters, unique := false, bound := none, executions := 0 }]
  · simp only [Plan.record]
    cases p.isUnique <;> rfl
  all_goals first | rfl | exact fun _ => rfl

end Record

/-! ### The record that was added last -/

namespace Recorder

variable (records : List Record) (record : Record) (script : List Scripted)

theorem update_last (f : Record → Record) :
    (⟨records ++ [record], script⟩ : Recorder).update records.length f =
      ⟨records ++ [f record], script⟩ := by
  simp [update, List.modify_eq_take_cons_drop]

theorem configureAll_last (settings : List Setting) :
    engine.configureAll records.length settings ⟨records ++ [record], script⟩ =
      ⟨records ++ [settings.foldl Record.note record], script⟩ := by
  induction settings generalizing record with
  | nil => rfl
  | cons setting settings ih =>
    rw [List.foldl_cons, ← ih, ← update_last records record script fun r => r.note setting]
    rfl

/-- The output comes from the script, and the records stay. -/
theorem take_eq (r : Recorder) (unique : Bool) :
    (⟨records, r.script⟩ : Recorder).take unique =
      ((r.take unique).1, ⟨records, r.script.tail⟩) := by
  rcases r with ⟨_, _ | ⟨output | message, script⟩⟩ <;> rfl

theorem run_last {values : Option (List Value)}
    (aligned : record.declaredCount = (values.getD []).length) :
    (⟨records ++ [record], script⟩ : Recorder).run records.length values =
      (⟨records ++ [record.noteRun values], script⟩ : Recorder).take record.unique := by
  rw [run, List.getElem?_append_right (Nat.le_refl _), Nat.sub_self]
  simp only [List.getElem?_cons_zero, aligned, if_true, update_last]

end Recorder

/-! ### Columns -/

theorem Row.single_eq_ok_iff {row : Row} {v : Value} : row.single = .ok v ↔ row = [v] := by
  rcases row with _ | ⟨w, _ | ⟨w', row⟩⟩ <;> simp [Row.single]

theorem Row.mapM_single_eq_ok_iff {rows : List Row} {vs : List Value} :
    rows.mapM Row.single = .ok vs ↔ rows = vs.map fun v => [v] := by
  induction rows generalizing vs with
  | nil => cases vs <;> simp [pure, Except.pure]
  | cons row rows ih =>
    rw [List.mapM_cons]
    constructor
    · intro h
      obtain ⟨v, hv, h⟩ := exists_of_bind_eq_ok h
      obtain ⟨ws, hws, h⟩ := exists_of_bind_eq_ok h
      cases h
      rw [List.map_cons, single_eq_ok_iff.1 hv, ih.1 hws]
    · intro h
      cases vs with
      | nil => cases h
      | cons v vs =>
        obtain ⟨rfl, hvs⟩ := List.cons.inj h
        rw [ih.2 hvs]
        rfl

/-- A column is read exactly from rows with one value each. -/
theorem Output.column_eq_ok_iff {o : Output} {vs : List Value} :
    o.column = .ok vs ↔ o = .rows (vs.map fun v => [v]) := by
  cases o with
  | rows rows =>
    rw [Output.rows.injEq, ← Row.mapM_single_eq_ok_iff]
    rfl
  | unique row =>
    constructor
    · intro h
      cases h
    · intro h
      cases h

namespace Session

/-! ### Answers -/

/-- A plan is recorded as it is, run once, and takes one output off the script. -/
theorem execute_recorder (s : Session Nat) (r : Recorder) {plan : Plan}
    (aligned : plan.record.declaredCount = plan.parameters.values.length) :
    s.execute Recorder.engine r plan =
      ((r.take plan.isUnique).1.mapError .engine,
        { s with handles := s.handles.register r.records.length },
        ⟨r.records ++ [plan.record], r.script.tail⟩) := by
  let told : Record := { plan.record with bound := none, executions := 0 }
  let values := if plan.parameters.values.isEmpty then none else some plan.parameters.values
  -- The new record stays the last one, which is where its handle points.
  have configured : Recorder.engine.configureAll r.records.length plan.settings
      ⟨r.records ++ [.prepared plan.primaryClass], r.script⟩ = ⟨r.records ++ [told], r.script⟩ := by
    rw [Recorder.configureAll_last, Record.foldl_note_settings]
  have bound : told.declaredCount = (values.getD []).length := by
    refine Eq.trans aligned ?_
    simp only [values]
    cases plan.parameters.values <;> rfl
  have ran : Recorder.run ⟨r.records ++ [told], r.script⟩ r.records.length values =
      ((r.take plan.isUnique).1, ⟨r.records ++ [plan.record], r.script.tail⟩) := by
    rw [Recorder.run_last _ _ _ bound, Recorder.take_eq]
    rfl
  show ((Recorder.run (Recorder.engine.configureAll _ _ _) _ values).1.mapError QueryError.engine,
    _, (Recorder.run (Recorder.engine.configureAll _ _ _) _ values).2) = _
  rw [configured, ran]

/-- What an answer is and leaves behind, given what was planned for it. -/
structure Follows {α : Type} (planned : Except QueryError Plan)
    (read : Output → Except QueryError α) (s : Session Nat) (r : Recorder)
    (answer : Answer Recorder Nat α) : Prop where
  /-- If planning fails, the answer is the error and nothing happens. -/
  refused : ∀ cause, planned = .error cause →
    answer.1 = .error cause ∧ answer.2.1.handles = s.handles ∧ answer.2.2 = r
  /-- If it succeeds, the answer is read from the next output of the script, which is taken off.
  One handle is held, and its record is that of the plan, run once. -/
  executed : ∀ plan, planned = .ok plan →
    answer.1 = ((r.take plan.isUnique).1.mapError .engine).bind read ∧
      answer.2.1.handles = s.handles.register r.records.length ∧
      answer.2.2 = ⟨r.records ++ [plan.record], r.script.tail⟩

/-- How a page is answered: a list is asked for only after a count that finds rows. -/
inductive PageFollows (s : Session Nat) (r : Recorder) (x : Expr) :
    Answer Recorder Nat (Page Value) → Prop where
  /-- The count fails. -/
  | uncounted {cause : QueryError} {s' : Session Nat} {r' : Recorder}
      (counted : Follows (s.plan [x] .count).1 Output.total s r (.error cause, s', r')) :
      PageFollows s r x (.error cause, s', r')
  /-- There are no rows. -/
  | nothing {s' : Session Nat} {r' : Recorder}
      (counted : Follows (s.plan [x] .count).1 Output.total s r (.ok 0, s', r')) :
      PageFollows s r x (.ok .empty, s', r')
  /-- There are rows, but they are not had. -/
  | unlisted {total : UInt64} {cause : QueryError} {s' s'' : Session Nat} {r' r'' : Recorder}
      (counted : Follows (s.plan [x] .count).1 Output.total s r (.ok total, s', r'))
      (positive : total ≠ 0)
      (unlisted : Follows (s.plan [x] (.list s.clauses.window)).1 Output.column s' r'
        (.error cause, s'', r'')) : PageFollows s r x (.error cause, s'', r'')
  /-- The page holds the total and the rows that the script gives, in order. -/
  | listed {total : UInt64} {plan : Plan} {results : List Value} {s' s'' : Session Nat}
      {r' r'' : Recorder}
      (counted : Follows (s.plan [x] .count).1 Output.total s r (.ok total, s', r'))
      (positive : total ≠ 0) (planned : (s.plan [x] (.list s.clauses.window)).1 = .ok plan)
      (rows : (r'.take plan.isUnique).1 = .ok (.rows (results.map fun v => [v])))
      (listed : Follows (.ok plan) Output.column s' r' (.ok results, s'', r'')) :
      PageFollows s r x (.ok ⟨results, s.clauses.window, total⟩, s'', r'')

variable {s : Session Nat}

theorem follows_ask (hconfig : s.config.Obtainable) (hs : s.Coherent) {α : Type} (r : Recorder)
    (extra : List Expr) (mode : Mode) (read : Output → Except QueryError α) :
    Follows (s.plan extra mode).1 read s r (s.ask Recorder.engine r extra mode read) := by
  have planned := plan_eq_planOf hs extra mode
  have handles := handles_plan s extra mode
  unfold ask
  rcases h : s.plan extra mode with ⟨cause | plan, t⟩
  · rw [h] at handles
    constructor
    · rintro _ ⟨⟩
      exact ⟨rfl, handles, rfl⟩
    · rintro _ ⟨⟩
  · rw [h] at handles planned
    have aligned : plan.record.declaredCount = plan.parameters.values.length :=
      planOf_aligned hconfig planned.symm rfl
    constructor
    · rintro _ ⟨⟩
    · rintro _ ⟨⟩
      dsimp only
      rw [execute_recorder t r aligned]
      exact ⟨rfl, congrArg (Registry.register · _) handles, rfl⟩

theorem pageFollows_page (hconfig : s.config.Obtainable) (hs : s.Coherent) (r : Recorder)
    (x : Expr) : PageFollows s r x (s.page Recorder.engine r x) := by
  have counted := follows_ask hconfig hs r [x] .count Output.total
  have keeps := keeps_ask Recorder.engine s r [x] .count Output.total
  unfold page
  rcases h : s.ask Recorder.engine r [x] .count Output.total with ⟨cause | total, s', r'⟩
  · rw [h] at counted
    exact .uncounted counted
  rw [h] at counted keeps
  by_cases hzero : total = 0
  · subst hzero
    exact .nothing counted
  -- The count changed nothing that the list is planned from.
  have listed := follows_ask (keeps.config ▸ hconfig) (keeps.coherent hs) r' [x]
    (.list s'.clauses.window) Output.column
  rw [keeps.plan_eq hs] at listed
  simp only [if_neg hzero, list]
  rw [keeps.clauses] at listed ⊢
  rcases h' : s'.ask Recorder.engine r' [x] (.list s.clauses.window) Output.column with
    ⟨cause | results, s'', r''⟩
  · rw [h'] at listed
    exact .unlisted counted hzero listed
  · rw [h'] at listed
    cases planned : (s.plan [x] (.list s.clauses.window)).1 with
    | error cause =>
      cases (listed.refused cause planned).1
    | ok plan =>
      rw [planned] at listed
      have read := (listed.executed plan rfl).1
      cases output : (r'.take plan.isUnique).1 with
      | error message =>
        rw [output] at read
        cases read
      | ok o =>
        rw [output] at read
        have rows := Output.column_eq_ok_iff.1 read.symm
        exact .listed counted hzero planned (rows ▸ output) listed

/-- **Every answer does what plans announce.** Take any session that calls have made, and a
recorder in any state. Counts, lists and single results follow the plan for them; a page follows
the plan of a count and, if there are rows, that of a list with the window of the session. -/
theorem answers_follow_plans {config : Config} (hconfig : config.Obtainable)
    (hs : Reached Recorder.engine config s) (r : Recorder) :
    Follows (s.plan [] .count).1 Output.total s r (s.count Recorder.engine r) ∧
    (∀ x, Follows (s.plan [x] (.list s.clauses.window)).1 Output.column s r
      (s.list Recorder.engine r x)) ∧
    (∀ xs, Follows (s.plan xs (.list s.clauses.window)).1 Output.rowList s r
      (s.listMany Recorder.engine r xs)) ∧
    (∀ x, Follows (s.plan [x] .unique).1 Output.single s r (s.uniqueResult Recorder.engine r x)) ∧
    ∀ x, PageFollows s r x (s.page Recorder.engine r x) := by
  have hconfig : s.config.Obtainable := hs.config_eq ▸ hconfig
  have follows {α : Type} (extra : List Expr) (mode : Mode) (read : Output → Except QueryError α) :=
    follows_ask hconfig hs.coherent r extra mode read
  exact ⟨follows [] .count Output.total, fun x => follows [x] _ Output.column,
    fun xs => follows xs _ Output.rowList, fun x => follows [x] .unique Output.single,
    fun x => pageFollows_page hconfig hs.coherent r x⟩

/-! Two persons of five -/

/-- Settings with words of their own. -/
def renamed : Config := ⟨.default, "grp", "col"⟩

/-- The first two persons above an age. -/
def adults : List Call :=
  [.addSources [⟨"Person", "person"⟩],
    .addFilter ((Expr.path ⟨"person", ["age"]⟩).gt (.literal (.int 17))), .limit 2]

/-- A count and two names. -/
def scripted : Recorder :=
  (Recorder.empty.pushCount 5).pushValues [.string "Ada", .string "Grace"]

theorem plan_adults :
    ((run Recorder.engine adults (new renamed, scripted)).1.plan [] .count).1.toOption.bind
      (·.filter) = some "age > a" := by
  decide +kernel

theorem answers_follow_plans_adults :
    let s := (run Recorder.engine adults (new renamed, scripted)).1
    ∃ plan, (s.plan [] .count).1 = .ok plan ∧ plan.filter = some "age > a" ∧
      (s.count Recorder.engine scripted).1 = .ok 5 ∧
      (s.count Recorder.engine scripted).2.2 = ⟨[plan.record], scripted.script.tail⟩ ∧
      ∀ x, PageFollows s scripted x (s.page Recorder.engine scripted x) := by
  obtain ⟨plan, h, filter⟩ := exists_of_toOption_bind plan_adults
  have obtainable : renamed.Obtainable :=
    .withWords .default (rfl : Config.default.withWords "grp" "col" = .ok renamed)
  have reached : Reached Recorder.engine renamed _ := Reached.new.run adults scripted
  obtain ⟨counted, -, -, -, paged⟩ := answers_follow_plans obtainable reached scripted
  obtain ⟨answer, -, recorded⟩ := counted.executed plan h
  exact ⟨plan, h, filter, answer, recorded, paged⟩

end Session

end StoreQuery
