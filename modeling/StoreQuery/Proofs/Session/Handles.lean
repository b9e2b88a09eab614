import Mathlib.Data.List.DropRight
import StoreQuery.Proofs.Session.Paging

/-!
# Handles are released once

A session holds the handles that it prepared until it is closed or given up. What it does with them
is seen by the engine alone, so that an engine is given a journal: `Engine.journaled` notes which
handle was prepared and which was released, and is the same engine otherwise.

* `Session.run_journaled` : a run with a journal is the run without it, and its notes are added;
* `Session.journal_eq_append` : since the last time that it was closed, a session prepared the
  handles that it holds and released none;
* `Session.prepared_journal` : what was prepared was released or is held;
* `Session.handles_released_once` : **every handle is released once, when the session is closed next
  or given up**, and what a call that fails does to the handles;
* `Session.handle_gained_by_refused_page` : a page that is refused and leaves a handle.
-/

namespace StoreQuery

/-! ### Journals -/

/-- What happens to a handle. -/
inductive HandleEvent (η : Type) where
  /-- The engine prepared it. -/
  | prepared (h : η)
  /-- The engine was told to release it. -/
  | released (h : η)
deriving DecidableEq

namespace HandleEvent

variable {η : Type}

/-- The handle, if it was prepared. -/
def prepared? : HandleEvent η → Option η
  | .prepared h => some h
  | .released _ => none

/-- The handle, if it was released. -/
def released? : HandleEvent η → Option η
  | .prepared _ => none
  | .released h => some h

@[simp] theorem filterMap_prepared?_prepared (hs : List η) :
    (hs.map prepared).filterMap prepared? = hs := by
  simp [List.filterMap_map, Function.comp_def, prepared?]

@[simp] theorem filterMap_released?_prepared (hs : List η) :
    (hs.map prepared).filterMap released? = [] := by
  simp [List.filterMap_map, Function.comp_def, released?]

@[simp] theorem filterMap_prepared?_released (hs : List η) :
    (hs.map released).filterMap prepared? = [] := by
  simp [List.filterMap_map, Function.comp_def, prepared?]

@[simp] theorem filterMap_released?_released (hs : List η) :
    (hs.map released).filterMap released? = hs := by
  simp [List.filterMap_map, Function.comp_def, released?]

end HandleEvent

variable {σ η : Type}

/-- The engine with a journal of its handles. -/
def Engine.journaled (e : Engine σ η) : Engine (σ × List (HandleEvent η)) η where
  prepare className state :=
    match e.prepare className state.1 with
    | (.ok h, after) => (.ok h, after, state.2 ++ [.prepared h])
    | (.error detail, after) => (.error detail, after, state.2)
  configure h setting state := (e.configure h setting state.1, state.2)
  run h values state :=
    let (output, after) := e.run h values state.1
    (output, after, state.2)
  release h state := (e.release h state.1, state.2 ++ [.released h])

variable (e : Engine σ η)

theorem Engine.configureAll_journaled (h : η) (settings : List Setting) (state : σ)
    (j : List (HandleEvent η)) :
    e.journaled.configureAll h settings (state, j) = (e.configureAll h settings state, j) := by
  induction settings generalizing state with
  | nil => rfl
  | cons setting settings ih => exact ih (e.configure h setting state)

theorem Registry.releaseAll_journaled (r : Registry η) (state : σ) (j : List (HandleEvent η)) :
    r.releaseAll e.journaled (state, j) =
      (.empty, (r.releaseAll e state).2, j ++ r.handles.map .released) := by
  rcases r with ⟨hs⟩
  refine Prod.ext rfl ?_
  simp only [releaseAll]
  induction hs generalizing state j with
  | nil => simp
  | cons h hs ih =>
    rw [List.foldl_cons, List.foldl_cons, List.map_cons]
    refine (ih (e.release h state) (j ++ [.released h])).trans ?_
    simp

namespace Session

/-! ### Calls with a journal -/

/-- The session gained handles, if any, and with a journal all is the same, except that these are
noted as prepared. -/
def Notes (s : Session η) (after : Session η × σ)
    (noted : List (HandleEvent η) → Session η × σ × List (HandleEvent η)) : Prop :=
  ∃ gained, after.1.handles.handles = s.handles.handles ++ gained ∧
    ∀ j, noted j = (after.1, after.2, j ++ gained.map .prepared)

/-- The same of a call that is answered. -/
def Journals {α : Type} (s : Session η) (answer : Answer σ η α)
    (noted : List (HandleEvent η) → Answer (σ × List (HandleEvent η)) η α) : Prop :=
  ∃ gained, answer.2.1.handles.handles = s.handles.handles ++ gained ∧
    ∀ j, noted j = (answer.1, answer.2.1, answer.2.2, j ++ gained.map .prepared)

theorem Notes.none {s t : Session η} {state : σ} (h : t.handles = s.handles) :
    Notes s (t, state) fun j => (t, state, j) :=
  ⟨[], by rw [h, List.append_nil], fun j => by simp⟩

theorem Journals.notes {α : Type} {s : Session η} {answer : Answer σ η α}
    {noted : List (HandleEvent η) → Answer (σ × List (HandleEvent η)) η α}
    (h : Journals s answer noted) : Notes s answer.2 fun j => (noted j).2 := by
  obtain ⟨gained, handles, noted⟩ := h
  exact ⟨gained, handles, fun j => congrArg Prod.snd (noted j)⟩

theorem journals_execute (s : Session η) (state : σ) (plan : Plan) :
    Journals s (s.execute e state plan) fun j => s.execute e.journaled (state, j) plan := by
  unfold execute
  rcases hprepare : e.prepare plan.primaryClass state with ⟨detail | h, after⟩
  · refine ⟨[], (List.append_nil _).symm, ?_⟩
    intro j
    simp [Engine.journaled, hprepare]
  · refine ⟨[h], rfl, ?_⟩
    intro j
    have prepared : e.journaled.prepare plan.primaryClass (state, j) =
        (.ok h, after, j ++ [.prepared h]) := by
      simp only [Engine.journaled, hprepare]
    simp only [prepared, Engine.configureAll_journaled]
    rfl

theorem journals_ask {α : Type} (s : Session η) (state : σ) (extra : List Expr) (mode : Mode)
    (read : Output → Except QueryError α) :
    Journals s (s.ask e state extra mode read)
      fun j => s.ask e.journaled (state, j) extra mode read := by
  have kept := handles_plan s extra mode
  unfold ask
  rcases hplan : s.plan extra mode with ⟨cause | plan, t⟩
  · rw [hplan] at kept
    refine ⟨[], ?_, ?_⟩
    · rw [kept, List.append_nil]
    · intro j
      simp
  · rw [hplan] at kept
    obtain ⟨gained, handles, noted⟩ := journals_execute e t state plan
    rw [kept] at handles
    refine ⟨gained, handles, ?_⟩
    intro j
    simp only [noted]

theorem journals_page (s : Session η) (state : σ) (x : Expr) :
    Journals s (s.page e state x) fun j => s.page e.journaled (state, j) x := by
  obtain ⟨gained, handles, noted⟩ := journals_ask e s state [x] .count Output.total
  unfold page
  rcases hcount : s.ask e state [x] .count Output.total with ⟨cause | total, t, state'⟩
  · rw [hcount] at handles noted
    refine ⟨gained, handles, ?_⟩
    intro j
    simp only [noted]
  · rw [hcount] at handles noted
    by_cases hrows : total = 0
    · simp only [noted, if_pos hrows]
      exact ⟨gained, handles, fun j => rfl⟩
    · obtain ⟨gained', handles', noted'⟩ :=
        journals_ask e t state' [x] (.list t.clauses.window) Output.column
      simp only [noted, if_neg hrows, list, noted']
      refine ⟨gained ++ gained', ?_, ?_⟩
      · rw [handles', handles, List.append_assoc]
      · intro j
        simp

theorem close_journaled (s : Session η) (state : σ) (j : List (HandleEvent η)) :
    s.close e.journaled (state, j) =
      ((s.close e state).1, (s.close e state).2, j ++ s.handles.handles.map .released) := by
  simp only [close, Registry.releaseAll_journaled]
  rfl

end Session

namespace Call

/-- The call closes the session. -/
def isClose : Call → Bool
  | .close => true
  | _ => false

theorem eq_close_of_isClose {call : Call} (h : call.isClose = true) : call = .close := by
  cases call <;> first | rfl | cases h

/-- The calls up to the last that closes the session. -/
def untilClose (calls : List Call) : List Call := calls.rdropWhile fun call => !call.isClose

/-- The calls since the session was closed last. -/
def sinceClose (calls : List Call) : List Call := calls.rtakeWhile fun call => !call.isClose

end Call

namespace Session

/-- A call that does not close the session keeps all handles, and those that it adds are noted. -/
theorem notes_step {call : Call} (h : call.isClose = false) (s : Session η) (state : σ) :
    Notes s (step e (s, state) call) fun j => step e.journaled (s, state, j) call := by
  cases call with
  | close => cases h
  | count => exact (journals_ask e s state _ _ _).notes
  | list x => exact (journals_ask e s state _ _ _).notes
  | listMany xs => exact (journals_ask e s state _ _ _).notes
  | uniqueResult x => exact (journals_ask e s state _ _ _).notes
  | page x => exact (journals_page e s state x).notes
  | plan extra mode => exact .none (handles_plan s extra mode)
  | explain extra mode => exact .none (handles_plan s extra mode)
  | having x =>
    simp only [step, having]
    cases s.clauses.addHaving x <;> exact .none rfl
  | _ => exact .none rfl

/-! ### Runs with a journal -/

/-- What is noted of a run. -/
def journal (calls : List Call) (s : Session η × σ) : List (HandleEvent η) :=
  (run e.journaled calls (s.1, s.2, [])).2.2

/-- What is noted of a run and of the session being given up after it. -/
def finalJournal (calls : List Call) (s : Session η × σ) : List (HandleEvent η) :=
  ((run e.journaled calls (s.1, s.2, [])).1.drop e.journaled
    (run e.journaled calls (s.1, s.2, [])).2).2

/-- A run with a journal is the run without it, and what is noted comes after what is noted
already. -/
theorem run_journaled (calls : List Call) (s : Session η) (state : σ) (j : List (HandleEvent η)) :
    run e.journaled calls (s, state, j) =
      ((run e calls (s, state)).1, (run e calls (s, state)).2,
        j ++ journal e calls (s, state)) := by
  -- What a call adds depends on nothing that is noted already: the same notes do for every `j`.
  have noted (s : Session η) (state : σ) : ∃ events, ∀ j, run e.journaled calls (s, state, j) =
      ((run e calls (s, state)).1, (run e calls (s, state)).2, j ++ events) := by
    induction calls generalizing s state with
    | nil => exact ⟨[], fun j => by simp [run]⟩
    | cons call calls ih =>
      obtain ⟨events, first⟩ : ∃ events, ∀ j, step e.journaled (s, state, j) call =
          ((step e (s, state) call).1, (step e (s, state) call).2, j ++ events) := by
        cases h : call.isClose with
        | true =>
          rw [Call.eq_close_of_isClose h]
          exact ⟨_, close_journaled e s state⟩
        | false =>
          obtain ⟨gained, -, noted⟩ := notes_step e h s state
          exact ⟨_, noted⟩
      obtain ⟨more, rest⟩ := ih (step e (s, state) call).1 (step e (s, state) call).2
      refine ⟨events ++ more, ?_⟩
      intro j
      refine (congrArg (run e.journaled calls) (first j)).trans ((rest _).trans ?_)
      rw [List.append_assoc]
      rfl
  obtain ⟨events, noted⟩ := noted s state
  have : journal e calls (s, state) = events := by rw [journal, noted, List.nil_append]
  rw [noted, this]

theorem journal_append (calls more : List Call) (s : Session η × σ) :
    journal e (calls ++ more) s = journal e calls s ++ journal e more (run e calls s) := by
  rw [journal, run_append, run_journaled, run_journaled, List.nil_append]

theorem journal_close (s : Session η × σ) :
    journal e [.close] s = s.1.handles.handles.map .released := by
  rw [journal]
  exact congrArg (fun t => t.2.2) (close_journaled e s.1 s.2 [])

theorem finalJournal_eq (calls : List Call) (s : Session η × σ) :
    finalJournal e calls s =
      journal e calls s ++ (run e calls s).1.handles.handles.map .released := by
  rw [finalJournal, run_journaled, List.nil_append]
  exact congrArg (fun t => t.2.2) (close_journaled e _ _ _)

/-- As long as it is not closed, a session keeps its handles and prepares those that it gains. -/
theorem exists_gained (calls : List Call) (h : ∀ call ∈ calls, call.isClose = false)
    (s : Session η × σ) :
    ∃ gained, (run e calls s).1.handles.handles = s.1.handles.handles ++ gained ∧
      journal e calls s = gained.map .prepared := by
  induction calls generalizing s with
  | nil => exact ⟨[], (List.append_nil _).symm, rfl⟩
  | cons call calls ih =>
    obtain ⟨hcall, hcalls⟩ := List.forall_mem_cons.1 h
    obtain ⟨gained, handles, noted⟩ := notes_step e hcall s.1 s.2
    obtain ⟨more, handles', noted'⟩ := ih hcalls (step e s call)
    refine ⟨gained ++ more, ?_, ?_⟩
    · exact handles'.trans (by rw [handles, List.append_assoc])
    · rw [← List.singleton_append, journal_append, show run e [call] s = step e s call from rfl,
        noted', List.map_append, journal, show run e.journaled [call] _ = _ from noted []]
      rfl

/-! ### Handles that are held and handles that are released -/

/-- A session that was just closed, or never asked, holds nothing. -/
theorem handles_untilClose (config : Config) (calls : List Call) (state : σ) :
    (run e (Call.untilClose calls) (new config, state)).1.handles = .empty := by
  induction calls using List.reverseRecOn with
  | nil => rfl
  | append_singleton calls call ih =>
    cases h : call.isClose with
    | true =>
      rw [Call.untilClose, List.rdropWhile_concat_neg _ _ _ (by simp [h]), run_snoc,
        Call.eq_close_of_isClose h]
      rfl
    | false =>
      rw [Call.untilClose, List.rdropWhile_concat_pos _ _ _ (by simp [h])]
      exact ih

theorem isClose_of_mem_sinceClose {calls : List Call} {call : Call}
    (h : call ∈ Call.sinceClose calls) : call.isClose = false := by
  simpa using List.mem_rtakeWhile_imp h

/-- Since it was closed last, a session prepared the handles that it holds and released none. -/
theorem journal_eq_append (config : Config) (calls : List Call) (state : σ) :
    journal e calls (new config, state) =
      journal e (Call.untilClose calls) (new config, state) ++
        (run e calls (new config, state)).1.handles.handles.map .prepared := by
  obtain ⟨gained, handles, noted⟩ := exists_gained e (Call.sinceClose calls)
    (fun _ => isClose_of_mem_sinceClose) (run e (Call.untilClose calls) (new config, state))
  have split : Call.untilClose calls ++ Call.sinceClose calls = calls :=
    List.rdropWhile_append_rtakeWhile
  rw [← run_append, split, handles_untilClose] at handles
  calc journal e calls (new config, state)
      = journal e (Call.untilClose calls ++ Call.sinceClose calls) (new config, state) := by
        rw [split]
    _ = _ := by
        rw [journal_append, noted, handles]
        rfl

/-- What was prepared was released, in the same order, or it is held. -/
theorem prepared_journal (config : Config) (calls : List Call) (state : σ) :
    (journal e calls (new config, state)).filterMap HandleEvent.prepared? =
      (journal e calls (new config, state)).filterMap HandleEvent.released? ++
        (run e calls (new config, state)).1.handles.handles := by
  induction calls using List.reverseRecOn with
  | nil => rfl
  | append_singleton calls call ih =>
    rw [journal_append, List.filterMap_append, List.filterMap_append, ih, run_append]
    cases h : call.isClose with
    | true =>
      rw [Call.eq_close_of_isClose h, journal_close, HandleEvent.filterMap_prepared?_released,
        HandleEvent.filterMap_released?_released, List.append_nil]
      exact (List.append_nil _).symm
    | false =>
      obtain ⟨gained, handles, noted⟩ :=
        exists_gained e [call] (by simpa using h) (run e calls (new config, state))
      rw [noted, handles, HandleEvent.filterMap_prepared?_prepared,
        HandleEvent.filterMap_released?_prepared, List.append_nil, List.append_assoc]

/-! ### Calls that fail -/

/-- The error of an answer. -/
def errorOf {α : Type} : Except QueryError α → Option QueryError
  | .ok _ => none
  | .error cause => some cause

theorem errorOf_eq_some_iff {α : Type} {x : Except QueryError α} {cause : QueryError} :
    errorOf x = some cause ↔ x = .error cause := by
  cases x <;> simp [errorOf]

/-- The error that a call ends in. -/
def failure? : Session η × σ → Call → Option QueryError
  | (s, _), .having x => errorOf (s.having x)
  | (s, _), .plan extra mode => errorOf (s.plan extra mode).1
  | (s, _), .explain extra mode => errorOf (s.explain extra mode).1
  | (s, state), .count => errorOf (s.count e state).1
  | (s, state), .list x => errorOf (s.list e state x).1
  | (s, state), .listMany xs => errorOf (s.listMany e state xs).1
  | (s, state), .uniqueResult x => errorOf (s.uniqueResult e state x).1
  | (s, state), .page x => errorOf (s.page e state x).1
  | _, _ => none

/-- The call plans a second time, once the first plan is executed. -/
def plansAgain (s : Session η) : Call → Bool
  | .page x => (s.plan [x] .count).1.isOk
  | _ => false

theorem openHandles_of_handles {s t : Session η} (h : t.handles = s.handles) :
    t.openHandles = s.openHandles := by rw [openHandles, openHandles, h]

theorem openHandles_ask_refused {α : Type} {s : Session η} {state : σ} {extra : List Expr}
    {mode : Mode} {read : Output → Except QueryError α}
    (hread : ∀ o, FailsFor QueryError.AfterAssembly (read o)) {cause : QueryError}
    (hcause : cause.isAssembly = true)
    (h : errorOf (s.ask e state extra mode read).1 = some cause) :
    (s.ask e state extra mode read).2.1.openHandles = s.openHandles := by
  rw [(ask_refused e hread hcause (errorOf_eq_some_iff.1 h)).2]
  exact openHandles_of_handles (handles_plan s extra mode)

/-- A page that cannot be assembled leaves a handle exactly if its count could be planned. -/
theorem openHandles_page_refused {s : Session η} {state : σ} {x : Expr} {cause : QueryError}
    (hcause : cause.isAssembly = true) (h : (s.page e state x).1 = .error cause) :
    (s.page e state x).2.1.openHandles =
      s.openHandles + (s.plan [x] .count).1.isOk.toNat := by
  obtain ⟨unplanned, answer⟩ | ⟨total, t, state', hcount, hrows, unlisted⟩ :=
    page_refused e hcause h
  · -- The count itself could not be planned.
    rw [answer, unplanned]
    exact openHandles_of_handles (handles_plan s [x] .count)
  · obtain ⟨plan, handle, planned, handles⟩ :=
      exists_register_of_ask_ok e (congrArg Prod.fst hcount)
    rw [page_of_unlisted e hcount hrows unlisted, planned]
    rw [hcount] at handles
    exact (openHandles_of_handles (handles_plan t [x] _)).trans
      ((congrArg Registry.size handles).trans (Registry.size_register _ _))

/-- A call that fails in planning gains a handle if it planned before, and else none. -/
theorem openHandles_step_refused {s : Session η} {state : σ} {call : Call} {cause : QueryError}
    (hcause : cause.isAssembly = true) (h : failure? e (s, state) call = some cause) :
    (step e (s, state) call).1.openHandles = s.openHandles + (plansAgain s call).toNat := by
  cases call with
  | page x => exact openHandles_page_refused e hcause (errorOf_eq_some_iff.1 h)
  | count => exact openHandles_ask_refused e (fun o => o.reads_total.failsFor) hcause h
  | list x => exact openHandles_ask_refused e (fun o => o.reads_column.failsFor) hcause h
  | listMany xs => exact openHandles_ask_refused e (fun o => o.reads_rowList.failsFor) hcause h
  | uniqueResult x => exact openHandles_ask_refused e (fun o => o.reads_single.failsFor) hcause h
  | plan extra mode => exact openHandles_of_handles (handles_plan s extra mode)
  | explain extra mode => exact openHandles_of_handles (handles_plan s extra mode)
  | having x =>
    simp only [step, errorOf_eq_some_iff.1 h]
    rfl
  | _ => cases h

/-! ### Every handle is released once -/

/-- What becomes of the handles of a run. -/
structure Accounts (config : Config) (calls : List Call) (state : σ) : Prop where
  /-- The journal only watches: the session and the engine are as they are without it. -/
  watched : run e.journaled calls (new config, state, []) =
    ((run e calls (new config, state)).1, (run e calls (new config, state)).2,
      journal e calls (new config, state))
  /-- Since the session was closed last, the handles that it holds were prepared, in this order, and
  none was released. -/
  held : journal e calls (new config, state) =
    journal e (Call.untilClose calls) (new config, state) ++
      (run e calls (new config, state)).1.handles.handles.map .prepared
  /-- The number of open handles is the number of those prepared since. -/
  openHandles : (run e calls (new config, state)).1.openHandles =
    ((journal e calls (new config, state)).drop
      (journal e (Call.untilClose calls) (new config, state)).length).length
  /-- If the session is closed now, these handles are released, and each once. -/
  closed : journal e (calls ++ [.close]) (new config, state) =
    journal e calls (new config, state) ++
      (run e calls (new config, state)).1.handles.handles.map .released
  /-- So they are if the session is given up. -/
  dropped : finalJournal e calls (new config, state) =
    journal e calls (new config, state) ++
      (run e calls (new config, state)).1.handles.handles.map .released
  /-- Then all handles that were ever prepared were released, each as often as it was prepared. -/
  once : (finalJournal e calls (new config, state)).filterMap HandleEvent.released? =
    (finalJournal e calls (new config, state)).filterMap HandleEvent.prepared?

/-- **Every handle is released once.** Take any run, with any engine. What is prepared is released
when the session is closed next, or else when it is given up, and at any moment the handles prepared
since the session was closed last are those that are open. A call that fails in planning leaves
their number as it is, unless it is a page whose count could be planned: that leaves one more. -/
theorem handles_released_once (config : Config) (calls : List Call) (state : σ) :
    Accounts e config calls state ∧
    ∀ call cause, cause.isAssembly = true →
      failure? e (run e calls (new config, state)) call = some cause →
      (run e (calls ++ [call]) (new config, state)).1.openHandles =
        (run e calls (new config, state)).1.openHandles +
          (plansAgain (run e calls (new config, state)).1 call).toNat := by
  have held := journal_eq_append e config calls state
  refine ⟨?_, ?_⟩
  · exact {
      watched := run_journaled e calls (new config) state []
      held := held
      openHandles := by
        rw [held, List.drop_left, List.length_map]
        rfl
      closed := by rw [journal_append, journal_close]
      dropped := finalJournal_eq e calls (new config, state)
      once := by
        rw [finalJournal_eq, List.filterMap_append, List.filterMap_append, prepared_journal,
          HandleEvent.filterMap_released?_released, HandleEvent.filterMap_prepared?_released,
          List.append_nil] }
  · intro call cause hcause h
    rw [run_snoc]
    exact openHandles_step_refused e hcause h

/-- A pair of a pair, which no column can be. -/
def pairOfPair : Expr := .construct "Pair" [.construct "Pair" []]

/-- Persons that are counted and listed and, after the session was closed, counted again. -/
def recounted : List Call :=
  adults ++ [.count, .listMany [.path ⟨"person", ["name"]⟩], .close, .count]

theorem handles_released_once_recounted :
    Accounts Recorder.engine .default recounted scripted ∧
    finalJournal Recorder.engine recounted (new .default, scripted) =
      [.prepared 0, .prepared 1, .released 0, .released 1, .prepared 2, .released 2] ∧
    failure? Recorder.engine (run Recorder.engine recounted (new .default, scripted))
      (.list pairOfPair) = some (.clause .constructOutsideProjection) ∧
    (run Recorder.engine (recounted ++ [.list pairOfPair]) (new .default, scripted)).1.openHandles =
      (run Recorder.engine recounted (new .default, scripted)).1.openHandles := by
  obtain ⟨accounts, refused⟩ :=
    handles_released_once Recorder.engine .default recounted scripted
  have failed : failure? Recorder.engine (run Recorder.engine recounted (new .default, scripted))
      (.list pairOfPair) = some (.clause .constructOutsideProjection) := by
    decide +kernel
  exact ⟨accounts, by decide +kernel, failed, refused _ _ rfl failed⟩

/-! ### A handle that is gained in vain -/

/-- All persons. -/
def persons : List Call := [.addSources [⟨"Person", "person"⟩]]

/-- No column can be a pair of a pair, but the count does not look at the columns. It is sent, and
the page is refused with a handle more. -/
theorem handle_gained_by_refused_page :
    failure? Recorder.engine (run Recorder.engine persons (new .default, scriptedCount))
        (.page pairOfPair) = some (.clause .constructOutsideProjection) ∧
      (QueryError.clause .constructOutsideProjection).isAssembly = true ∧
      (run Recorder.engine persons (new .default, scriptedCount)).1.openHandles = 0 ∧
      (run Recorder.engine (persons ++ [.page pairOfPair])
        (new .default, scriptedCount)).1.openHandles = 1 := by
  exact ⟨by decide +kernel, rfl, rfl, by decide +kernel⟩

end Session

end StoreQuery
