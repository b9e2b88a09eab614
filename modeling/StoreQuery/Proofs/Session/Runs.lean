import StoreQuery.Proofs.Expr.Shape
import StoreQuery.Session

/-!
# Runs of sessions

A caller changes a session and asks it, in any order, and any call may fail. `Call` lists the
calls, `Session.step` makes one and `Session.run` makes several, with any engine.

* `Session.Coherent` : the condition on objects that a session keeps is the one that it would
  write now;
* `Session.coherent_run` : it is so after every run;
* `Session.plan_eq_planOf` : a coherent session plans as if it kept nothing.
-/

namespace StoreQuery

/-- A call to a session. -/
inductive Call where
  /-- Add sources. -/
  | addSources (sources : List Source)
  /-- Add a condition on objects. -/
  | addFilter (x : Expr)
  /-- Add expressions to group by. -/
  | groupBy (xs : List Expr)
  /-- Add a condition on groups. -/
  | having (x : Expr)
  /-- Add sort keys. -/
  | orderBy (keys : List SortKey)
  /-- Add columns. -/
  | project (xs : List Expr)
  /-- Ask for equal rows once. -/
  | distinct
  /-- Keep at most `n` rows. -/
  | limit (n : UInt64)
  /-- Skip `n` rows. -/
  | offset (n : UInt64)
  /-- Replace the window. -/
  | restrict (window : Window)
  /-- Drop all clauses. -/
  | clear
  /-- Release the handles. -/
  | close
  /-- Plan the query. -/
  | plan (extra : List Expr) (mode : Mode)
  /-- Plan the query and write the plan. -/
  | explain (extra : List Expr) (mode : Mode)
  /-- Ask for the number of objects. -/
  | count
  /-- Ask for the values of a column. -/
  | list (x : Expr)
  /-- Ask for the rows of several columns. -/
  | listMany (xs : List Expr)
  /-- Ask for the only value. -/
  | uniqueResult (x : Expr)
  /-- Ask for a page. -/
  | page (x : Expr)

namespace Call

/-- The call asks for something and changes no query. -/
def isAsking : Call → Bool
  | .close | .plan .. | .explain .. | .count | .list _ | .listMany _ | .uniqueResult _
  | .page _ => true
  | _ => false

/-- The sources after the call. -/
def sourcesAfter (sources : List Source) : Call → List Source
  | .addSources more => sources ++ more
  | _ => sources

/-- The clauses after the call. -/
def clausesAfter (c : Clauses) : Call → Clauses
  | .addFilter x => c.addFilter x
  | .groupBy xs => c.addGroupBy xs
  | .having x => (c.addHaving x).toOption.getD c
  | .orderBy keys => c.addSort keys
  | .project xs => c.addColumns xs
  | .distinct => c.setDistinct true
  | .limit n => c.setLimit n
  | .offset n => c.setOffset n
  | .restrict window => c.setWindow window
  | .clear => .empty
  | _ => c

/-- The call with every expression and every source mapped. -/
def map (φ : Expr → Expr) (ψ : Source → Source) : Call → Call
  | .addSources sources => .addSources (sources.map ψ)
  | .addFilter x => .addFilter (φ x)
  | .groupBy xs => .groupBy (xs.map φ)
  | .having x => .having (φ x)
  | .orderBy keys => .orderBy (keys.map (SortKey.mapTarget φ))
  | .project xs => .project (xs.map φ)
  | .plan extra mode => .plan (extra.map φ) mode
  | .explain extra mode => .explain (extra.map φ) mode
  | .list x => .list (φ x)
  | .listMany xs => .listMany (xs.map φ)
  | .uniqueResult x => .uniqueResult (φ x)
  | .page x => .page (φ x)
  | call => call

theorem sourcesAfter_map (φ : Expr → Expr) (ψ : Source → Source) (sources : List Source)
    (call : Call) :
    (call.map φ ψ).sourcesAfter (sources.map ψ) = (call.sourcesAfter sources).map ψ := by
  cases call <;> simp [map, sourcesAfter]

theorem clausesAfter_map {φ : Expr → Expr} (h : Expr.KeepsShape φ) (ψ : Source → Source)
    (c : Clauses) (call : Call) :
    (call.map φ ψ).clausesAfter (c.mapExprs φ) = (call.clausesAfter c).mapExprs φ := by
  cases call with
  | having x =>
    have empty : (c.mapExprs φ).groupBy.isEmpty = c.groupBy.isEmpty := List.isEmpty_map
    simp only [map, clausesAfter, Clauses.addHaving, empty]
    split
    · rfl
    · simp [Except.toOption, Clauses.mapExprs, Clauses.conjoin_mapExprs h]
  | addFilter x =>
    simp [map, clausesAfter, Clauses.addFilter, Clauses.mapExprs, Clauses.conjoin_mapExprs h]
  | project xs => exact Clauses.addColumns_mapExprs h c xs
  | groupBy xs => simp [map, clausesAfter, Clauses.addGroupBy, Clauses.mapExprs]
  | orderBy keys => simp [map, clausesAfter, Clauses.addSort, Clauses.mapExprs]
  | _ => rfl

end Call

/-- A condition on groups is there only where there are groups. -/
def Clauses.Grouped (c : Clauses) : Prop := c.having ≠ none → c.groupBy ≠ []

theorem Call.grouped_clausesAfter {c : Clauses} (h : c.Grouped) (call : Call) :
    (call.clausesAfter c).Grouped := by
  cases call with
  | having x =>
    -- Without groups the call is refused.
    by_cases hempty : c.groupBy = []
    · simpa [clausesAfter, Clauses.addHaving, hempty, Except.toOption] using h
    · intro _
      simp [clausesAfter, Clauses.addHaving, hempty, Except.toOption]
  | groupBy xs =>
    intro hhaving
    exact List.append_ne_nil_of_left_ne_nil (h hhaving) xs
  | clear => exact fun hhaving => absurd rfl hhaving
  | _ => exact h

namespace Session

variable {σ η : Type} (e : Engine σ η)

/-- Make a call. Of the answer only what it leaves behind is kept. -/
def step : Session η × σ → Call → Session η × σ
  | (s, state), .addSources sources => (s.addSources sources, state)
  | (s, state), .addFilter x => (s.addFilter x, state)
  | (s, state), .groupBy xs => (s.groupBy xs, state)
  | (s, state), .having x =>
    match s.having x with
    | .ok s => (s, state)
    | .error _ => (s, state)
  | (s, state), .orderBy keys => (s.orderBy keys, state)
  | (s, state), .project xs => (s.project xs, state)
  | (s, state), .distinct => (s.distinct, state)
  | (s, state), .limit n => (s.limit n, state)
  | (s, state), .offset n => (s.offset n, state)
  | (s, state), .restrict window => (s.restrict window, state)
  | (s, state), .clear => (s.clear, state)
  | (s, state), .close => s.close e state
  | (s, state), .plan extra mode => ((s.plan extra mode).2, state)
  | (s, state), .explain extra mode => ((s.explain extra mode).2, state)
  | (s, state), .count => (s.count e state).2
  | (s, state), .list x => (s.list e state x).2
  | (s, state), .listMany xs => (s.listMany e state xs).2
  | (s, state), .uniqueResult x => (s.uniqueResult e state x).2
  | (s, state), .page x => (s.page e state x).2

/-- Make calls one after another. -/
def run (calls : List Call) (s : Session η × σ) : Session η × σ := calls.foldl (step e) s

theorem run_append (calls more : List Call) (s : Session η × σ) :
    run e (calls ++ more) s = run e more (run e calls s) :=
  List.foldl_append

theorem run_snoc (calls : List Call) (call : Call) (s : Session η × σ) :
    run e (calls ++ [call]) s = step e (run e calls s) call := by
  rw [run_append]
  rfl

/-! ### What is kept -/

/-- The condition on objects that is kept is the one that would be written now. -/
def Coherent (s : Session η) : Prop :=
  ∀ clause, s.filter = some clause →
    ∀ f, Frame.ofSources? s.config s.sources = some f → f.filterClause s.clauses = .ok clause

theorem coherent_of_filter_none {s : Session η} (h : s.filter = none) : s.Coherent := by
  intro clause hc
  rw [h] at hc
  cases hc

/-- A coherent session plans as if it kept nothing. -/
theorem plan_eq_planOf {s : Session η} (h : s.Coherent) (extra : List Expr) (mode : Mode) :
    (s.plan extra mode).1 = planOf s.config s.sources s.clauses extra mode := by
  unfold plan planOf
  cases hf : Frame.ofSources? s.config s.sources with
  | none => rfl
  | some f =>
    simp only [filterClause]
    cases hfilter : s.filter with
    | some clause =>
      rw [h clause hfilter f hf]
      rfl
    | none => cases f.filterClause s.clauses <;> rfl

/-- The query is the same, and the second session is coherent if the first is. -/
structure Keeps (s t : Session η) : Prop where
  /-- The settings are the same. -/
  config : t.config = s.config
  /-- The sources are the same. -/
  sources : t.sources = s.sources
  /-- The clauses are the same. -/
  clauses : t.clauses = s.clauses
  /-- What is kept may be kept. -/
  coherent : s.Coherent → t.Coherent

namespace Keeps

theorem refl (s : Session η) : Keeps s s := ⟨rfl, rfl, rfl, id⟩

theorem trans {s t u : Session η} (h : Keeps s t) (k : Keeps t u) : Keeps s u :=
  ⟨k.config.trans h.config, k.sources.trans h.sources, k.clauses.trans h.clauses,
    k.coherent ∘ h.coherent⟩

/-- What keeps the query is planned alike. -/
theorem plan_eq {s t : Session η} (h : Keeps s t) (hs : s.Coherent) (extra : List Expr)
    (mode : Mode) : (t.plan extra mode).1 = (s.plan extra mode).1 := by
  rw [plan_eq_planOf hs, plan_eq_planOf (h.coherent hs), h.config, h.sources, h.clauses]

theorem withHandles (s : Session η) (handles : Registry η) : Keeps s { s with handles } :=
  ⟨rfl, rfl, rfl, id⟩

end Keeps

theorem keeps_plan (s : Session η) (extra : List Expr) (mode : Mode) :
    Keeps s (s.plan extra mode).2 := by
  unfold plan
  cases hf : Frame.ofSources? s.config s.sources with
  | none => exact .refl s
  | some f =>
    simp only [filterClause]
    cases hfilter : s.filter with
    | some clause => exact .refl s
    | none =>
      cases hwritten : f.filterClause s.clauses with
      | error cause => exact .refl s
      | ok clause =>
        refine ⟨rfl, rfl, rfl, ?_⟩
        intro _ clause' hc f' hf'
        cases hc
        cases hf.symm.trans hf'
        exact hwritten

/-- Planning prepares nothing. -/
theorem handles_plan (s : Session η) (extra : List Expr) (mode : Mode) :
    (s.plan extra mode).2.handles = s.handles := by
  have written (f : Frame) : (s.filterClause f).2.handles = s.handles := by
    unfold filterClause
    cases s.filter with
    | some clause => rfl
    | none => cases f.filterClause s.clauses <;> rfl
  unfold plan
  cases Frame.ofSources? s.config s.sources with
  | none => rfl
  | some f =>
    have kept := written f
    rcases h : s.filterClause f with ⟨clause, t⟩
    rw [h] at kept
    simp only [h]
    cases clause <;> exact kept

theorem keeps_explain (s : Session η) (extra : List Expr) (mode : Mode) :
    Keeps s (s.explain extra mode).2 :=
  keeps_plan s extra mode

theorem keeps_execute (s : Session η) (state : σ) (plan : Plan) :
    Keeps s (s.execute e state plan).2.1 := by
  unfold execute
  split
  · exact .refl s
  · exact .withHandles s _

theorem keeps_ask {α : Type} (s : Session η) (state : σ) (extra : List Expr) (mode : Mode)
    (read : Output → Except QueryError α) : Keeps s (s.ask e state extra mode read).2.1 := by
  have planned := keeps_plan s extra mode
  unfold ask
  split
  · rename_i h
    rw [h] at planned
    exact planned
  · rename_i h
    rw [h] at planned
    exact planned.trans (keeps_execute e _ state _)

theorem keeps_page (s : Session η) (state : σ) (x : Expr) : Keeps s (s.page e state x).2.1 := by
  have counted := keeps_ask e s state [x] .count Output.total
  unfold page
  split
  · rename_i h
    rw [h] at counted
    exact counted
  · rename_i h
    rw [h] at counted
    split
    · exact counted
    · exact counted.trans (keeps_ask e _ _ _ _ _)

/-- A call that asks changes no query. -/
theorem keeps_step {call : Call} (h : call.isAsking = true) (s : Session η) (state : σ) :
    Keeps s (step e (s, state) call).1 := by
  cases call with
  | close => exact .withHandles s _
  | plan extra mode => exact keeps_plan s extra mode
  | explain extra mode => exact keeps_explain s extra mode
  | count => exact keeps_ask e s state _ _ _
  | list x => exact keeps_ask e s state _ _ _
  | listMany xs => exact keeps_ask e s state _ _ _
  | uniqueResult x => exact keeps_ask e s state _ _ _
  | page x => exact keeps_page e s state x
  | _ => cases h

/-! ### Steps and runs -/

/-- What a call does to the query, and that nothing stale is kept. -/
theorem step_spec (s : Session η) (state : σ) (call : Call) :
    (step e (s, state) call).1.config = s.config ∧
      (step e (s, state) call).1.sources = call.sourcesAfter s.sources ∧
      (step e (s, state) call).1.clauses = call.clausesAfter s.clauses ∧
      (s.Coherent → (step e (s, state) call).1.Coherent) := by
  cases h : call.isAsking with
  | true =>
    obtain ⟨config, sources, clauses, coherent⟩ := keeps_step e h s state
    cases call <;> first | exact ⟨config, sources, clauses, coherent⟩ | cases h
  | false =>
    cases call with
    | having x =>
      -- A condition without groups is refused, and what is kept may stay.
      simp only [step, having, Call.sourcesAfter, Call.clausesAfter]
      cases s.clauses.addHaving x with
      | ok clauses => exact ⟨rfl, rfl, rfl, fun _ => coherent_of_filter_none rfl⟩
      | error cause => exact ⟨rfl, rfl, rfl, id⟩
    | addSources | addFilter | groupBy | orderBy | project | distinct | limit | offset | restrict
    | clear => exact ⟨rfl, rfl, rfl, fun _ => coherent_of_filter_none rfl⟩
    | _ => cases h

/-- What a run does to the query, and that nothing stale is kept. -/
theorem run_spec (calls : List Call) (s : Session η) (state : σ) :
    (run e calls (s, state)).1.config = s.config ∧
      (run e calls (s, state)).1.sources = calls.foldl Call.sourcesAfter s.sources ∧
      (run e calls (s, state)).1.clauses = calls.foldl Call.clausesAfter s.clauses ∧
      (s.Coherent → (run e calls (s, state)).1.Coherent) := by
  induction calls generalizing s state with
  | nil => exact ⟨rfl, rfl, rfl, id⟩
  | cons call calls ih =>
    obtain ⟨config, sources, clauses, coherent⟩ := step_spec e s state call
    obtain ⟨config', sources', clauses', coherent'⟩ :=
      ih (step e (s, state) call).1 (step e (s, state) call).2
    rw [config] at config'
    rw [sources] at sources'
    rw [clauses] at clauses'
    exact ⟨config', sources', clauses', coherent' ∘ coherent⟩

/-- Mapped calls leave mapped sources and clauses, whatever the engines answer. -/
theorem run_map {σ' η' : Type} (e' : Engine σ' η') {φ : Expr → Expr} (h : Expr.KeepsShape φ)
    (ψ : Source → Source) (config : Config) (calls : List Call) (state : σ) (state' : σ') :
    (run e' (calls.map (Call.map φ ψ)) (new config, state')).1.sources =
        (run e calls (new config, state)).1.sources.map ψ ∧
      (run e' (calls.map (Call.map φ ψ)) (new config, state')).1.clauses =
        (run e calls (new config, state)).1.clauses.mapExprs φ := by
  obtain ⟨-, sources, clauses, -⟩ := run_spec e calls (new config) state
  obtain ⟨-, sources', clauses', -⟩ := run_spec e' (calls.map (Call.map φ ψ)) (new config) state'
  rw [sources, clauses, sources', clauses', List.foldl_map, List.foldl_map]
  -- The induction needs any sources and clauses to start from.
  have folded (ss : List Source) (c : Clauses) :
      calls.foldl (fun ss call => (call.map φ ψ).sourcesAfter ss) (ss.map ψ) =
          (calls.foldl Call.sourcesAfter ss).map ψ ∧
        calls.foldl (fun c call => (call.map φ ψ).clausesAfter c) (c.mapExprs φ) =
          (calls.foldl Call.clausesAfter c).mapExprs φ := by
    clear sources clauses sources' clauses'
    induction calls generalizing ss c with
    | nil => exact ⟨rfl, rfl⟩
    | cons call calls ih =>
      rw [List.foldl_cons, List.foldl_cons, List.foldl_cons, List.foldl_cons,
        Call.sourcesAfter_map, Call.clausesAfter_map h]
      exact ih _ _
  exact folded [] .empty

/-- The session was made by calls, each of which may have found the engine in any state. -/
inductive Reached (config : Config) : Session η → Prop where
  | new : Reached config (new config)
  | step {s : Session η} (h : Reached config s) (call : Call) (state : σ) :
      Reached config (step e (s, state) call).1

namespace Reached

variable {e} {config : Config} {s : Session η}

theorem config_eq (h : Reached e config s) : s.config = config := by
  induction h with
  | new => rfl
  | @step s _ call state ih => rw [(step_spec e s state call).1, ih]

theorem coherent (h : Reached e config s) : s.Coherent := by
  induction h with
  | new => exact coherent_of_filter_none rfl
  | @step s _ call state ih => exact (step_spec e s state call).2.2.2 ih

theorem run (h : Reached e config s) (calls : List Call) (state : σ) :
    Reached e config (run e calls (s, state)).1 := by
  induction calls generalizing s state with
  | nil => exact h
  | cons call calls ih => exact ih (h.step call state) _

end Reached

/-- Every run leaves a coherent session. -/
theorem coherent_run (config : Config) (calls : List Call) (state : σ) :
    (run e calls (new config, state)).1.Coherent :=
  (run_spec e calls (new config) state).2.2.2 (coherent_of_filter_none rfl)

/-- A condition on groups stays only where there are groups. -/
theorem grouped_run (config : Config) (calls : List Call) (state : σ) :
    (run e calls (new config, state)).1.clauses.Grouped := by
  rw [(run_spec e calls (new config) state).2.2.1]
  have steps (c : Clauses) (hc : c.Grouped) : (calls.foldl Call.clausesAfter c).Grouped := by
    induction calls generalizing c with
    | nil => exact hc
    | cons call calls ih => exact ih _ (call.grouped_clausesAfter hc)
  exact steps .empty fun hhaving => absurd rfl hhaving

/-- After every run, a session plans as if it kept nothing. -/
theorem plan_run (config : Config) (calls : List Call) (state : σ) (extra : List Expr)
    (mode : Mode) : ((run e calls (new config, state)).1.plan extra mode).1 =
      planOf config (run e calls (new config, state)).1.sources
        (run e calls (new config, state)).1.clauses extra mode := by
  rw [plan_eq_planOf (coherent_run e config calls state),
    (run_spec e calls (new config) state).1]
  rfl

/-- An engine that prepares nothing. -/
def refusing : Engine Unit Unit where
  prepare _ state := (.error "down", state)
  configure _ _ state := state
  run _ _ state := (.ok (.rows []), state)
  release _ state := state

end Session

end StoreQuery
