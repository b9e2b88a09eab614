import Mathlib.Data.List.Induction
import StoreQuery.Proofs.Session.Runs

/-!
# Planning has no memory

What a session plans depends on its sources and its clauses, and these on the calls that changed
them: neither on what was planned or answered before, nor on how calls for different clauses were
mixed.

* `Clauses.extend` : the clauses after calls none of which clears, clause by clause;
* `Session.clauses_run` : the clauses after a run are made by the calls since the last `clear`;
* `Session.plan_without_memory` : **planning has no memory.**
-/

namespace StoreQuery

/-- The clauses of a query that calls may change. -/
inductive ClauseKind where
  /-- The condition on objects. -/
  | filter
  /-- The expressions to group by. -/
  | groupBy
  /-- The condition on groups. -/
  | having
  /-- The columns. -/
  | columns
  /-- The sort keys. -/
  | sort
  /-- The wish for equal rows once. -/
  | distinct
  /-- The window. -/
  | window
deriving DecidableEq

namespace Call

/-- The clause that a call changes. -/
def kind? : Call → Option ClauseKind
  | .addFilter _ => some .filter
  | .groupBy _ => some .groupBy
  | .having _ => some .having
  | .project _ => some .columns
  | .orderBy _ => some .sort
  | .distinct => some .distinct
  | .limit _ | .offset _ | .restrict _ => some .window
  | _ => none

/-- The sources that a call adds. -/
def sources : Call → List Source
  | .addSources sources => sources
  | _ => []

/-- The condition on objects after a call. -/
def filterAfter (filter : Option Expr) : Call → Option Expr
  | .addFilter x => some (Clauses.conjoin filter x)
  | _ => filter

/-- The expressions to group by that a call adds. -/
def groups : Call → List Expr
  | .groupBy xs => xs
  | _ => []

/-- The condition on groups after a call that is not refused. -/
def havingAfter (having : Option Expr) : Call → Option Expr
  | .having x => some (Clauses.conjoin having x)
  | _ => having

/-- The columns that a call adds. -/
def columns : Call → List Expr
  | .project xs => xs.flatMap Clauses.flatten
  | _ => []

/-- The sort keys that a call adds. -/
def keys : Call → List SortKey
  | .orderBy keys => keys
  | _ => []

/-- The call asks for equal rows once. -/
def isDistinct : Call → Bool
  | .distinct => true
  | _ => false

/-- The window after a call. -/
def windowAfter (window : Window) : Call → Window
  | .limit n => window.withLimit n
  | .offset n => window.withOffset n
  | .restrict window => window
  | _ => window

/-- The call drops all clauses. -/
def isClear : Call → Bool
  | .clear => true
  | _ => false

/-- The calls since the last that drops all clauses. -/
def sinceClear (calls : List Call) : List Call :=
  calls.foldl (fun since call => if call.isClear then [] else since ++ [call]) []

end Call

/-! ### Clause by clause -/

namespace Clauses

/-- The clauses after calls none of which clears or is refused. -/
def extend (c : Clauses) (calls : List Call) : Clauses :=
  { filter := calls.foldl Call.filterAfter c.filter
    groupBy := c.groupBy ++ calls.flatMap Call.groups
    having := calls.foldl Call.havingAfter c.having
    columns := c.columns ++ calls.flatMap Call.columns
    sort := c.sort ++ calls.flatMap Call.keys
    distinct := c.distinct || calls.any Call.isDistinct
    window := calls.foldl Call.windowAfter c.window }

/-- Every condition on groups comes when there is a group. -/
def Accepts (c : Clauses) : List Call → Prop
  | [] => True
  | call :: calls => (call.kind? = some .having → c.groupBy ≠ []) ∧
      (call.clausesAfter c).Accepts calls

theorem clausesAfter_eq_extend {c : Clauses} {call : Call} (hclear : call.isClear = false)
    (haccepts : call.kind? = some .having → c.groupBy ≠ []) :
    call.clausesAfter c = c.extend [call] := by
  obtain ⟨filter, groupBy, having, columns, sort, distinct, window⟩ := c
  cases call with
  | clear => cases hclear
  | having x =>
    have : groupBy.isEmpty = false := by simpa using haccepts rfl
    simp [Call.clausesAfter, addHaving, this, Except.toOption, extend, Call.filterAfter,
      Call.groups, Call.havingAfter, Call.columns, Call.keys, Call.isDistinct, Call.windowAfter]
  | _ => simp [Call.clausesAfter, addFilter, addGroupBy, addColumns, addSort, setDistinct,
      setLimit, setOffset, setWindow, extend, Call.filterAfter, Call.groups, Call.havingAfter,
      Call.columns, Call.keys, Call.isDistinct, Call.windowAfter]

theorem extend_cons (c : Clauses) (call : Call) (calls : List Call) :
    c.extend (call :: calls) = (c.extend [call]).extend calls := by
  simp [extend, Bool.or_assoc]

theorem foldl_clausesAfter {c : Clauses} {calls : List Call}
    (hclear : ∀ call ∈ calls, call.isClear = false) (haccepts : c.Accepts calls) :
    calls.foldl Call.clausesAfter c = c.extend calls := by
  induction calls generalizing c with
  | nil => simp [extend]
  | cons call calls ih =>
    rw [List.forall_mem_cons] at hclear
    rw [List.foldl_cons, ih hclear.2 haccepts.2, clausesAfter_eq_extend hclear.1 haccepts.1,
      ← extend_cons]

/-! ### One clause at a time -/

/-- The clause of a kind, and no other. -/
def only (c : Clauses) : ClauseKind → Clauses
  | .filter => { empty with filter := c.filter }
  | .groupBy => { empty with groupBy := c.groupBy }
  | .having => { empty with having := c.having }
  | .columns => { empty with columns := c.columns }
  | .sort => { empty with sort := c.sort }
  | .distinct => { empty with distinct := c.distinct }
  | .window => { empty with window := c.window }

theorem eq_of_only {c d : Clauses} (h : ∀ kind, c.only kind = d.only kind) : c = d := by
  have filter := congrArg Clauses.filter (h .filter)
  have groupBy := congrArg Clauses.groupBy (h .groupBy)
  have having := congrArg Clauses.having (h .having)
  have columns := congrArg Clauses.columns (h .columns)
  have sort := congrArg Clauses.sort (h .sort)
  have distinct := congrArg Clauses.distinct (h .distinct)
  have window := congrArg Clauses.window (h .window)
  cases c
  cases d
  simp only [only] at filter groupBy having columns sort distinct window
  simp only [filter, groupBy, having, columns, sort, distinct, window]

/-- A call leaves the clauses of other kinds as they are. -/
theorem only_extend_of_ne {call : Call} {kind : ClauseKind} (h : call.kind? ≠ some kind)
    (c : Clauses) : (c.extend [call]).only kind = c.only kind := by
  cases kind <;> cases call <;> first
    | exact absurd rfl h
    | simp [only, extend, Call.filterAfter, Call.groups, Call.havingAfter, Call.columns,
        Call.keys, Call.isDistinct, Call.windowAfter]

/-- What a call makes of the clause of its kind depends on this clause alone. -/
theorem only_extend_congr {call : Call} {kind : ClauseKind} (hk : call.kind? = some kind)
    {c d : Clauses} (h : c.only kind = d.only kind) :
    (c.extend [call]).only kind = (d.extend [call]).only kind := by
  cases call <;> cases hk <;> simp_all [only, extend]

/-- A clause is made by the calls of its kind. -/
theorem only_extend_filter {kind : ClauseKind} {calls : List Call} {c d : Clauses}
    (h : c.only kind = d.only kind) :
    (c.extend calls).only kind = (d.extend (calls.filter (·.kind? = some kind))).only kind := by
  -- Calls of other kinds change the rest of `c`, so the clauses only agree in this kind.
  induction calls generalizing c d with
  | nil => simpa [extend] using h
  | cons call calls ih =>
    rw [extend_cons, List.filter_cons]
    by_cases hk : call.kind? = some kind
    · rw [if_pos (decide_eq_true hk), extend_cons d]
      exact ih (only_extend_congr hk h)
    · rw [if_neg (by simpa using hk)]
      exact ih ((only_extend_of_ne hk c).trans h)

theorem extend_congr (c : Clauses) {calls calls' : List Call}
    (h : ∀ kind, calls.filter (·.kind? = some kind) = calls'.filter (·.kind? = some kind)) :
    c.extend calls = c.extend calls' := by
  refine eq_of_only ?_
  intro kind
  rw [only_extend_filter rfl, h kind]
  exact (only_extend_filter rfl).symm

theorem accepts_of_splits {c : Clauses} {calls : List Call}
    (h : ∀ before x after, calls = before ++ .having x :: after →
      (before.foldl Call.clausesAfter c).groupBy ≠ []) : c.Accepts calls := by
  induction calls generalizing c with
  | nil => trivial
  | cons call calls ih =>
    refine ⟨?_, ih ?_⟩
    · intro hk
      cases call <;> cases hk
      exact h [] _ calls rfl
    · intro before x after hsplit
      exact h (call :: before) x after (by rw [hsplit]; rfl)

end Clauses

/-! ### Since the last clear -/

namespace Call

theorem sinceClear_snoc (calls : List Call) (call : Call) :
    sinceClear (calls ++ [call]) = if call.isClear then [] else sinceClear calls ++ [call] := by
  simp [sinceClear]

/-- What comes before the last `clear` leaves no clauses. -/
theorem sinceClear_spec (calls : List Call) : ∃ before, calls = before ++ sinceClear calls ∧
    before.foldl clausesAfter .empty = .empty ∧
      ∀ call ∈ sinceClear calls, call.isClear = false := by
  induction calls using List.reverseRecOn with
  | nil => exact ⟨[], rfl, rfl, nofun⟩
  | append_singleton calls call ih =>
    obtain ⟨before, hsplit, hempty, hclear⟩ := ih
    rw [sinceClear_snoc]
    cases hcall : call.isClear with
    | true =>
      refine ⟨calls ++ [call], by simp, ?_, nofun⟩
      cases call <;> first | cases hcall; done | simp [clausesAfter]
    | false =>
      refine ⟨before, ?_, hempty, ?_⟩
      · rw [if_neg Bool.false_ne_true, ← List.append_assoc, ← hsplit]
      · simp only [Bool.false_eq_true, if_false, List.mem_append, List.mem_singleton]
        rintro c (hc | rfl)
        · exact hclear c hc
        · exact hcall

end Call

namespace Session

variable {σ η : Type} (e : Engine σ η)

/-- No condition on groups was refused since the clauses were dropped last. -/
def HavingsAccepted (calls : List Call) (s : Session η × σ) : Prop :=
  ∀ n x, calls[n]? = some (.having x) → (∀ call ∈ calls.drop (n + 1), call.isClear = false) →
    ((run e (calls.take n) s).1.having x).isOk = true

theorem groupBy_ne_nil_of_having_isOk {s : Session η} {x : Expr} (h : (s.having x).isOk = true) :
    s.clauses.groupBy ≠ [] := by
  intro hnil
  simp [having, Clauses.addHaving, hnil, Except.map, Except.isOk, Except.toBool] at h

/-- The sources after a run are those that were added, in order. -/
theorem sources_run (config : Config) (calls : List Call) (state : σ) :
    (run e calls (new config, state)).1.sources = calls.flatMap Call.sources := by
  rw [(run_spec e calls (new config) state).2.1, List.flatMap_eq_foldl]
  have step : Call.sourcesAfter = fun sources call => sources ++ call.sources := by
    funext sources call
    cases call <;> simp [Call.sourcesAfter, Call.sources]
  rw [step]
  rfl

/-- The clauses after a run are made by the calls since the last `clear`. -/
theorem clauses_run (config : Config) {calls : List Call} {state : σ}
    (h : HavingsAccepted e calls (new config, state)) :
    (run e calls (new config, state)).1.clauses = Clauses.empty.extend (Call.sinceClear calls) := by
  obtain ⟨before, hsplit, hempty, hclear⟩ := Call.sinceClear_spec calls
  have clauses (calls : List Call) : (run e calls (new config, state)).1.clauses =
      calls.foldl Call.clausesAfter .empty := (run_spec e calls (new config) state).2.2.1
  have accepts : Clauses.empty.Accepts (Call.sinceClear calls) := by
    refine Clauses.accepts_of_splits ?_
    intro pre x post hpre
    have whole : calls = (before ++ pre) ++ .having x :: post := by
      rw [List.append_assoc, ← hpre, ← hsplit]
    have rest : calls.drop ((before ++ pre).length + 1) = post := by
      rw [whole, ← List.drop_drop, List.drop_left]
      rfl
    -- No call after this one clears, since it comes after the last that does.
    have uncleared : ∀ call ∈ calls.drop ((before ++ pre).length + 1), call.isClear = false := by
      intro call hcall
      exact hclear call (by rw [hpre]; simp [rest ▸ hcall])
    have haccepted := h (before ++ pre).length x (by rw [whole]; simp) uncleared
    have := groupBy_ne_nil_of_having_isOk haccepted
    rw [clauses, whole, List.take_left' rfl, List.foldl_append, hempty] at this
    exact this
  calc (run e calls (new config, state)).1.clauses
      = (before ++ Call.sinceClear calls).foldl Call.clausesAfter .empty := by
        rw [clauses, ← hsplit]
    _ = (Call.sinceClear calls).foldl Call.clausesAfter .empty := by
        rw [List.foldl_append, hempty]
    _ = Clauses.empty.extend (Call.sinceClear calls) :=
        Clauses.foldl_clausesAfter hclear accepts

/-- A session that was given its sources and its clauses and nothing else. -/
def fresh (config : Config) (sources : List Source) (clauses : Clauses) : Session η :=
  ⟨config, sources, clauses, none, .empty⟩

theorem plan_fresh (config : Config) (sources : List Source) (clauses : Clauses)
    (extra : List Expr) (mode : Mode) :
    ((fresh config sources clauses : Session η).plan extra mode).1 =
      planOf config sources clauses extra mode :=
  plan_eq_planOf (coherent_of_filter_none rfl) extra mode

variable {σ' η' : Type} (e' : Engine σ' η')

/-- **Planning has no memory.** After any run, a session plans like a fresh one with the same
sources and clauses; calls that ask change neither; and two runs that add the same sources, and
since the last `clear` the same to each clause, plan alike, however their calls were mixed. -/
theorem plan_without_memory (config : Config) (calls calls' : List Call) (state : σ)
    (state' : σ') :
    (∀ extra mode, ((run e calls (new config, state)).1.plan extra mode).1 =
      ((fresh config (run e calls (new config, state)).1.sources
        (run e calls (new config, state)).1.clauses : Session η).plan extra mode).1) ∧
    (∀ call, call.isAsking = true →
      (run e (calls ++ [call]) (new config, state)).1.sources =
          (run e calls (new config, state)).1.sources ∧
        (run e (calls ++ [call]) (new config, state)).1.clauses =
          (run e calls (new config, state)).1.clauses) ∧
    (calls.flatMap Call.sources = calls'.flatMap Call.sources →
      (∀ kind, (Call.sinceClear calls).filter (·.kind? = some kind) =
        (Call.sinceClear calls').filter (·.kind? = some kind)) →
      HavingsAccepted e calls (new config, state) →
      HavingsAccepted e' calls' (new config, state') →
      ∀ extra mode, ((run e calls (new config, state)).1.plan extra mode).1 =
        ((run e' calls' (new config, state')).1.plan extra mode).1) := by
  refine ⟨?_, ?_, ?_⟩
  · intro extra mode
    rw [plan_run, plan_fresh]
  · intro call hcall
    rw [run_snoc]
    have kept := keeps_step e hcall (run e calls (new config, state)).1
      (run e calls (new config, state)).2
    exact ⟨kept.sources, kept.clauses⟩
  · intro hsources hkinds h h' extra mode
    -- Both runs are folds over their calls, and of those only the order within a clause counts.
    rw [plan_run, plan_run, sources_run, sources_run, clauses_run e config h,
      clauses_run e' config h', hsources, Clauses.extend_congr _ hkinds]

/-! Two runs with the same clauses in another order -/

/-- The sources, the condition, the groups and the window in this order, with answers between. -/
def orderly : List Call :=
  let age := Expr.path ⟨"person", ["age"]⟩
  [.addSources [⟨"Person", "person"⟩], .addFilter (age.gt (.literal (.int 1))), .groupBy [age],
    .having (age.count.gt (.literal (.int 2))), .count, .limit 3, .list age]

/-- The same after a start that was dropped, and mixed. -/
def mixed : List Call :=
  let age := Expr.path ⟨"person", ["age"]⟩
  [.limit 9, .page age, .clear, .groupBy [age], .limit 3, .close,
    .having (age.count.gt (.literal (.int 2))), .plan [] .count,
    .addSources [⟨"Person", "person"⟩], .addFilter (age.gt (.literal (.int 1)))]

theorem havingsAccepted_orderly :
    HavingsAccepted refusing orderly (new Config.default, ()) := by
  intro n x hn _
  rcases n with _ | _ | _ | _ | _ | _ | _ | n
  case succ.succ.succ.zero =>
    cases hn
    rfl
  all_goals cases hn

theorem havingsAccepted_mixed :
    HavingsAccepted refusing mixed (new Config.default, ()) := by
  intro n x hn _
  rcases n with _ | _ | _ | _ | _ | _ | _ | _ | _ | _ | n
  case succ.succ.succ.succ.succ.succ.zero =>
    cases hn
    rfl
  all_goals cases hn

theorem plan_orderly_eq_plan_mixed :
    Call.sinceClear mixed ≠ mixed ∧ ∀ extra mode,
      ((run refusing orderly (new Config.default, ())).1.plan extra mode).1 =
        ((run refusing mixed (new Config.default, ())).1.plan extra mode).1 := by
  refine ⟨fun h => absurd (congrArg List.length h) (by decide), ?_⟩
  refine (plan_without_memory refusing refusing .default orderly mixed () ()).2.2 rfl ?_
    havingsAccepted_orderly havingsAccepted_mixed
  intro kind
  cases kind <;> rfl

end Session

end StoreQuery
