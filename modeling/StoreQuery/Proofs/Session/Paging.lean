import StoreQuery.Proofs.Parameters.Collisions
import StoreQuery.Proofs.Session.Counting
import StoreQuery.Proofs.Session.Outputs

/-!
# What is sent before a query is refused

A query that cannot be assembled is refused before anything is sent, but a page makes two queries
and assembles the second when the first is answered. Their clauses differ: a column or a sort key
that cannot be written spoils the list and not the count.

* `QueryError.isAssembly` : the errors of assembling; planning ends in no other
  (`Refusal.isAssembly`), asking and reading (`Reads.failsFor`) in none of them;
* `Session.ask_refused`, `Session.page_refused` : where such an error comes from;
* `Session.page_sends_nothing_iff` : **a page that is refused sends nothing exactly if it could be
  planned, should the count find rows**;
* `Session.page_counts_and_is_refused` : a page that is counted and then refused.
-/

namespace StoreQuery

/-! ### Errors of assembling -/

namespace QueryError

/-- The codes of the errors of assembling. -/
def assemblyCodes : List String :=
  ["NoSourceRegistered", "Unsupported", "Serialization", "DuplicateLabel"]

/-- The query cannot be assembled. -/
def isAssembly (cause : QueryError) : Bool := assemblyCodes.contains cause.code

end QueryError

theorem Refusal.isAssembly {config : Config} {cause : QueryError} (h : Refusal config cause) :
    cause.isAssembly = true := by
  cases h with
  | noSource => rfl
  | clause e => cases e <;> rfl
  | label => rfl

/-- The error came when the query was assembled already. -/
def QueryError.AfterAssembly (cause : QueryError) : Prop := cause.isAssembly = false

/-- Readers are given outputs, so that their errors are not of assembling. -/
theorem Reads.failsFor {α : Type} {o : Output} {Says : α → Prop} {oneWanted : Bool}
    {answer : Except QueryError α} (reads : Reads o Says oneWanted answer) :
    FailsFor QueryError.AfterAssembly answer := by
  intro cause h
  obtain ⟨n, rfl⟩ | unexpected := reads.unexpected cause h
  · rfl
  · rw [QueryError.AfterAssembly, QueryError.isAssembly, unexpected]
    rfl

namespace Session

variable {σ η : Type} (e : Engine σ η) {s : Session η} {state : σ}

theorem execute_failsFor (s : Session η) (state : σ) (plan : Plan) :
    FailsFor QueryError.AfterAssembly (s.execute e state plan).1 := by
  unfold execute
  split
  · exact .error rfl
  · rename_i h state' hprepare
    dsimp only
    cases (e.run _ _ _).1 with
    | ok output => exact .ok output
    | error detail => exact .error rfl

/-- **Asking is refused before anything is sent**: if the error is one of assembling, it is the
plan's, and the engine was told nothing. -/
theorem ask_refused {α : Type} {extra : List Expr} {mode : Mode}
    {read : Output → Except QueryError α} (hread : ∀ o, FailsFor QueryError.AfterAssembly (read o))
    {cause : QueryError} (hcause : cause.isAssembly = true)
    (h : (s.ask e state extra mode read).1 = .error cause) :
    (s.plan extra mode).1 = .error cause ∧
      s.ask e state extra mode read = (.error cause, (s.plan extra mode).2, state) := by
  unfold ask at h ⊢
  rcases hplan : s.plan extra mode with ⟨cause' | plan, t⟩
  · rw [hplan] at h
    cases h
    exact ⟨rfl, rfl⟩
  · rw [hplan] at h
    have after := ((execute_failsFor e t state plan).bind fun o _ => hread o) cause h
    rw [QueryError.AfterAssembly, hcause] at after
    cases after

/-- Planning ends in no other errors. -/
theorem isAssembly_of_plan (hs : s.Coherent) {extra : List Expr} {mode : Mode} {cause : QueryError}
    (h : (s.plan extra mode).1 = .error cause) : cause.isAssembly = true := by
  rw [plan_eq_planOf hs] at h
  exact (planOf_refusal _ _ _ _ _ _ h).isAssembly

/-- An answer to a question is had from one handle more. -/
theorem exists_register_of_ask_ok {α : Type} {extra : List Expr} {mode : Mode}
    {read : Output → Except QueryError α} {a : α}
    (h : (s.ask e state extra mode read).1 = .ok a) :
    ∃ plan handle, (s.plan extra mode).1 = .ok plan ∧
      (s.ask e state extra mode read).2.1.handles = s.handles.register handle := by
  have kept := handles_plan s extra mode
  unfold ask at h ⊢
  rcases hplan : s.plan extra mode with ⟨cause | plan, t⟩
  · rw [hplan] at h
    cases h
  · rw [hplan] at h kept
    unfold execute at h ⊢
    rcases hprepare : e.prepare plan.primaryClass state with ⟨detail | handle, state'⟩
    · simp only [hprepare] at h
      cases h
    · simp only [hprepare]
      exact ⟨plan, handle, rfl, by rw [← kept]⟩

/-! ### Pages -/

theorem page_of_uncounted {x : Expr} {cause : QueryError} {t : Session η} {state' : σ}
    (h : s.ask e state [x] .count Output.total = (.error cause, t, state')) :
    s.page e state x = (.error cause, t, state') := by
  simp only [page, h]

/-- If there are rows, what is left of the page is left by the list. -/
theorem page_of_counted {x : Expr} {total : UInt64} {t : Session η} {state' : σ}
    (h : s.ask e state [x] .count Output.total = (.ok total, t, state')) (hrows : total ≠ 0) :
    s.page e state x = ((t.list e state' x).1.map fun values => ⟨values, t.clauses.window, total⟩,
      (t.list e state' x).2) := by
  simp only [page, h, if_neg hrows]

/-- A page that is counted and cannot be listed is refused. -/
theorem page_of_unlisted {x : Expr} {total : UInt64} {t : Session η} {state' : σ}
    {cause : QueryError} (h : s.ask e state [x] .count Output.total = (.ok total, t, state'))
    (hrows : total ≠ 0) (hlist : (t.plan [x] (.list t.clauses.window)).1 = .error cause) :
    s.page e state x = (.error cause, (t.plan [x] (.list t.clauses.window)).2, state') := by
  rw [page_of_counted e h hrows, list, ask]
  rcases hplan : t.plan [x] (.list t.clauses.window) with ⟨cause' | plan, u⟩
  · rw [hplan] at hlist
    cases hlist
    rfl
  · rw [hplan] at hlist
    cases hlist

/-- A page is refused for one of two reasons. Either it cannot be counted, and nothing is sent; or
it was counted, there are rows, and they cannot be listed. -/
theorem page_refused {x : Expr} {cause : QueryError} (hcause : cause.isAssembly = true)
    (h : (s.page e state x).1 = .error cause) :
    ((s.plan [x] .count).1 = .error cause ∧
        s.page e state x = (.error cause, (s.plan [x] .count).2, state)) ∨
      ∃ total t state', s.ask e state [x] .count Output.total = (.ok total, t, state') ∧
        total ≠ 0 ∧ (t.plan [x] (.list t.clauses.window)).1 = .error cause := by
  rcases hcount : s.ask e state [x] .count Output.total with ⟨cause' | total, t, state'⟩
  · rw [page_of_uncounted e hcount] at h ⊢
    cases h
    have counted := ask_refused e (fun o => o.reads_total.failsFor) hcause
      (congrArg Prod.fst hcount)
    have left := (Prod.mk.inj (hcount.symm.trans counted.2)).2
    exact .inl ⟨counted.1, congrArg (Prod.mk _) left⟩
  · by_cases hrows : total = 0
    · simp only [page, hcount, if_pos hrows] at h
      cases h
    · rw [page_of_counted e hcount hrows] at h
      have listed := ask_refused e (fun o => o.reads_column.failsFor) hcause (eq_error_of_map h)
      exact .inr ⟨total, t, state', rfl, hrows, listed.1⟩

/-- The count leaves the query as it is, so that the list is planned from the same. -/
theorem plan_after_count {x : Expr} {t : Session η} {state' : σ} {answer : Except QueryError UInt64}
    (hs : s.Coherent) (h : s.count e state = (answer, t, state')) :
    (t.plan [x] (.list t.clauses.window)).1 = (s.plan [x] (.list s.clauses.window)).1 := by
  have keeps := keeps_ask e s state [] .count Output.total
  rw [show s.ask e state [] .count Output.total = (answer, t, state') from h] at keeps
  rw [keeps.plan_eq hs, keeps.clauses]

/-- If the count finds rows and they cannot be listed, the count is all that is sent. -/
theorem page_counted_only {s : Session Nat} (hconfig : s.config.Obtainable) (hs : s.Coherent)
    {r : Recorder} {x : Expr} {total : UInt64} {cause : QueryError}
    (hcount : (s.count Recorder.engine r).1 = .ok total) (hrows : total ≠ 0)
    (hlist : (s.plan [x] (.list s.clauses.window)).1 = .error cause) :
    (s.page Recorder.engine r x).1 = .error cause ∧ ∃ plan, (s.plan [] .count).1 = .ok plan ∧
      (s.page Recorder.engine r x).2.1.handles = s.handles.register r.records.length ∧
      (s.page Recorder.engine r x).2.2 = ⟨r.records ++ [plan.record], r.script.tail⟩ := by
  have follows := follows_ask hconfig hs r [] .count Output.total
  rw [show s.ask Recorder.engine r [] .count Output.total = s.count Recorder.engine r from rfl]
    at follows
  rcases h : s.count Recorder.engine r with ⟨answer, t, r'⟩
  rw [h] at hcount follows
  obtain rfl : answer = .ok total := hcount
  rw [page_of_unlisted _ ((ask_count_eq hs r [x]).trans h) hrows
    ((plan_after_count _ hs h).trans hlist)]
  refine ⟨rfl, ?_⟩
  cases hplan : (s.plan [] .count).1 with
  | error cause' => cases (follows.refused cause' hplan).1
  | ok plan =>
    obtain ⟨-, handles, recorded⟩ := follows.executed plan hplan
    exact ⟨plan, rfl, (t.handles_plan _ _).trans handles, recorded⟩

/-- **A refused page sends nothing exactly if it can be listed whenever the count finds rows.** Take
any session that calls have made, and a recorder in any state. If the page ends in an error of
assembling, then no handle was prepared and no output taken, unless the count succeeds and finds
rows and the list for the page cannot be planned. Then the count was sent, and that is all. -/
theorem page_sends_nothing_iff {config : Config} (hconfig : config.Obtainable) {s : Session Nat}
    (hs : Reached Recorder.engine config s) (r : Recorder) (x : Expr) :
    ((∀ cause, cause.isAssembly = true → (s.page Recorder.engine r x).1 = .error cause →
        (s.page Recorder.engine r x).2.1.handles = s.handles ∧
          (s.page Recorder.engine r x).2.2 = r) ↔
      ∀ total, (s.count Recorder.engine r).1 = .ok total → total ≠ 0 →
        ∃ plan, (s.plan [x] (.list s.clauses.window)).1 = .ok plan) ∧
    ∀ total cause, (s.count Recorder.engine r).1 = .ok total → total ≠ 0 →
      (s.plan [x] (.list s.clauses.window)).1 = .error cause →
        cause.isAssembly = true ∧ (s.page Recorder.engine r x).1 = .error cause ∧
        ∃ plan, (s.plan [] .count).1 = .ok plan ∧
          (s.page Recorder.engine r x).2.1.handles = s.handles.register r.records.length ∧
          (s.page Recorder.engine r x).2.2 = ⟨r.records ++ [plan.record], r.script.tail⟩ := by
  have hconfig : s.config.Obtainable := hs.config_eq ▸ hconfig
  refine ⟨⟨?_, ?_⟩, ?_⟩
  · intro nothing total hcount hrows
    cases hlist : (s.plan [x] (.list s.clauses.window)).1 with
    | ok plan => exact ⟨plan, rfl⟩
    | error cause =>
      obtain ⟨refused, -, -, handles, -⟩ :=
        page_counted_only hconfig hs.coherent hcount hrows hlist
      -- The count that found rows left a handle, although nothing should have been sent.
      have same := (nothing cause (isAssembly_of_plan hs.coherent hlist) refused).1
      have size := congrArg Registry.size (handles.symm.trans same)
      simp at size
  · intro listed cause hcause h
    -- A page is refused by its count, or by its list after a count that found rows.
    obtain ⟨-, uncounted⟩ | ⟨total, t, r', hcount, hrows, unlisted⟩ :=
      page_refused Recorder.engine hcause h
    · rw [uncounted]
      exact ⟨handles_plan s [x] .count, rfl⟩
    · rw [ask_count_eq hs.coherent] at hcount
      obtain ⟨plan, hplan⟩ := listed total (congrArg Prod.fst hcount) hrows
      rw [plan_after_count _ hs.coherent hcount, hplan] at unlisted
      cases unlisted
  · intro total cause hcount hrows hlist
    exact ⟨isAssembly_of_plan hs.coherent hlist,
      page_counted_only hconfig hs.coherent hcount hrows hlist⟩

/-- Persons that are a pair, which no condition can be. -/
def pairs : List Call := [.addSources [⟨"Person", "person"⟩], .addFilter (.construct "Pair" [])]

/-- A count of three. -/
def scriptedCount : Recorder := Recorder.empty.pushCount 3

theorem page_sends_nothing_pairs :
    let s := (run Recorder.engine pairs (new .default, scriptedCount)).1
    let name := Expr.path ⟨"person", ["name"]⟩
    (s.page Recorder.engine scriptedCount name).1 = .error (.clause .constructOutsideProjection) ∧
      (s.page Recorder.engine scriptedCount name).2.1.handles = s.handles ∧
      (s.page Recorder.engine scriptedCount name).2.2 = scriptedCount := by
  intro s name
  have refused : (s.page Recorder.engine scriptedCount name).1.map (fun _ => ()) =
      .error (.clause .constructOutsideProjection) := by
    decide +kernel
  have uncounted : (s.count Recorder.engine scriptedCount).1.map (fun _ => ()) =
      .error (.clause .constructOutsideProjection) := by
    decide +kernel
  have reached : Reached Recorder.engine .default s := Reached.new.run pairs scriptedCount
  refine ⟨eq_error_of_map refused, ?_⟩
  refine (page_sends_nothing_iff .default reached scriptedCount name).1.2 ?_ _ rfl
    (eq_error_of_map refused)
  intro total hcount
  rw [hcount] at uncounted
  cases uncounted

/-! ### A page that is counted in vain -/

/-- Persons by their age in a year. -/
def sortedBySum : List Call :=
  [.addSources [⟨"Person", "person"⟩],
    .orderBy [⟨(Expr.path ⟨"person", ["age"]⟩).add .one, .ascending⟩]]

/-- No order can hold a literal, but the count does not look at the order. It is sent, and then the
page is refused. -/
theorem page_counts_and_is_refused :
    let s := (run Recorder.engine sortedBySum (new .default, scriptedCount)).1
    let answer := s.page Recorder.engine scriptedCount (.path ⟨"person", ["name"]⟩)
    answer.1 = .error (.clause .literalWithoutLabel) ∧
      (QueryError.clause .literalWithoutLabel).isAssembly = true ∧
      s.openHandles = 0 ∧ answer.2.1.openHandles = 1 ∧
      answer.2.2.records.length = 1 ∧ answer.2.2.script.isEmpty = true := by
  intro s answer
  have refused : answer.1.map (fun _ => ()) = .error (.clause .literalWithoutLabel) := by
    decide +kernel
  exact ⟨eq_error_of_map refused, rfl, rfl, by decide +kernel, by decide +kernel,
    by decide +kernel⟩

end Session

end StoreQuery
