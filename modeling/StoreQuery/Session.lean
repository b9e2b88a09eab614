import StoreQuery.Assembly

/-!
# Sessions

A `Session` gathers sources and clauses and asks an engine. It holds every handle it prepared until
it is closed, and it keeps the text of the condition on objects until something changes.

* the functions up to `Session.clear` change the query;
* `Session.plan` plans it, `Session.count`, `Session.list`, `Session.listMany`,
  `Session.uniqueResult` and `Session.page` answer it;
* `Session.close` releases the handles, and `Session.drop` does so at the end.
-/

namespace StoreQuery

/-! ### Reading outputs -/

/-- The value of a row of one column. -/
def Row.single : Row → Except QueryError Value
  | [v] => .ok v
  | [] => .error .noColumns
  | _ => .error .severalColumns

namespace Output

/-- The rows of an output for many. -/
def rowList : Output → Except QueryError (List Row)
  | .rows list => .ok list
  | .unique _ => .error .singleResult

/-- The values of rows of one column. -/
def column (o : Output) : Except QueryError (List Value) := do (← o.rowList).mapM Row.single

/-- The row of an output that has one at most. -/
def oneRow : Output → Except QueryError (Option Row)
  | .unique row => .ok row
  | .rows [] => .ok none
  | .rows [row] => .ok (some row)
  | .rows list => .error (.severalRows list.length)

/-- The value of an output that has one at most. -/
def single (o : Output) : Except QueryError (Option Value) := do
  match ← o.oneRow with
  | some row => return some (← row.single)
  | none => return none

/-- The natural number of a value. -/
def natural (v : Value) : Except QueryError UInt64 :=
  match v.asLong? with
  | some n => if 0 ≤ n then .ok n.toUInt64 else .error .countNotNatural
  | none => .error .countNotNatural

/-- The number of an output that counts. -/
def total (o : Output) : Except QueryError UInt64 := do
  match ← o.oneRow with
  | some row => natural (← row.single)
  | none => .error .countWithoutRow

end Output

/-! ### Sessions -/

/-- A query that is being built and asked, with handles `η`. -/
structure Session (η : Type) where
  /-- The settings. -/
  config : Config
  /-- The sources; the first is the candidate. -/
  sources : List Source
  /-- The clauses. -/
  clauses : Clauses
  /-- The condition on objects as it was written last, unless something changed since. -/
  filter : Option FilterClause
  /-- The handles to release. -/
  handles : Registry η

namespace Session

/-- A session without sources and clauses. -/
def new (config : Config) : Session η := ⟨config, [], .empty, none, .empty⟩

variable (s : Session η)

/-! ### Building -/

/-- Replace the clauses; the condition on objects is to be written anew. -/
def withClauses (clauses : Clauses) : Session η := { s with clauses, filter := none }

/-- Add sources. -/
def addSources (sources : List Source) : Session η :=
  { s with sources := s.sources ++ sources, filter := none }

/-- Add a condition on objects. -/
def addFilter (x : Expr) : Session η := s.withClauses (s.clauses.addFilter x)

/-- Add expressions to group by. -/
def groupBy (xs : List Expr) : Session η := s.withClauses (s.clauses.addGroupBy xs)

/-- Add a condition on groups. Without groups it is refused and nothing changes. -/
def having (x : Expr) : Except QueryError (Session η) :=
  (s.clauses.addHaving x).map s.withClauses

/-- Add sort keys. -/
def orderBy (keys : List SortKey) : Session η := s.withClauses (s.clauses.addSort keys)

/-- Add columns. -/
def project (xs : List Expr) : Session η := s.withClauses (s.clauses.addColumns xs)

/-- Ask for equal rows once. -/
def distinct : Session η := s.withClauses (s.clauses.setDistinct true)

/-- Keep at most `n` rows. -/
def limit (n : UInt64) : Session η := s.withClauses (s.clauses.setLimit n)

/-- Skip `n` rows. -/
def offset (n : UInt64) : Session η := s.withClauses (s.clauses.setOffset n)

/-- Replace the window. -/
def restrict (window : Window) : Session η := s.withClauses (s.clauses.setWindow window)

/-- Drop all clauses and keep the sources. -/
def clear : Session η := s.withClauses .empty

/-- The number of handles to release. -/
def openHandles : Nat := s.handles.size

/-! ### Planning -/

/-- The written condition on objects: the one that is kept, or a new one, which is kept. -/
def filterClause (f : Frame) : Except QueryError FilterClause × Session η :=
  match s.filter with
  | some clause => (.ok clause, s)
  | none =>
    match f.filterClause s.clauses with
    | .ok clause => (.ok clause, { s with filter := some clause })
    | .error e => (.error e, s)

/-- Plan the query with `extra` columns after its own. -/
def plan (extra : List Expr) (mode : Mode) : Except QueryError Plan × Session η :=
  match Frame.ofSources? s.config s.sources with
  | none => (.error .noSource, s)
  | some f =>
    match s.filterClause f with
    | (.error e, s) => (.error e, s)
    | (.ok filter, s) =>
      (f.assemble s.clauses (s.clauses.addColumns extra).columns filter mode, s)

/-- The JSON form of the plan. -/
def explain (extra : List Expr) (mode : Mode) : Except QueryError Json × Session η :=
  let (plan, s) := s.plan extra mode
  (plan.map Plan.toJson, s)

/-! ### Asking -/

/-- What an answer leaves behind: the answer, the session and the state of the engine. -/
abbrev Answer (σ η α : Type) := Except QueryError α × Session η × σ

variable (e : Engine σ η) (state : σ)

/-- Send a plan to the engine and run it. The handle is held as soon as it is prepared. -/
def execute (plan : Plan) : Answer σ η Output :=
  match e.prepare plan.primaryClass state with
  | (.error detail, state) => (.error (.engine detail), s, state)
  | (.ok h, state) =>
    let s := { s with handles := s.handles.register h }
    let values := plan.parameters.values
    let (output, state) := e.run h (if values.isEmpty then none else some values)
      (e.configureAll h plan.settings state)
    (output.mapError .engine, s, state)

/-- Plan, execute and read the output. -/
def ask (extra : List Expr) (mode : Mode) (read : Output → Except QueryError α) :
    Answer σ η α :=
  match s.plan extra mode with
  | (.error cause, s) => (.error cause, s, state)
  | (.ok plan, s) =>
    let (output, s, state) := s.execute e state plan
    (output.bind read, s, state)

/-- The number of objects. -/
def count : Answer σ η UInt64 := s.ask e state [] .count Output.total

/-- The values of one column. -/
def list (x : Expr) : Answer σ η (List Value) :=
  s.ask e state [x] (.list s.clauses.window) Output.column

/-- The rows of several columns. -/
def listMany (xs : List Expr) : Answer σ η (List Row) :=
  s.ask e state xs (.list s.clauses.window) Output.rowList

/-- The only value, if there is one. -/
def uniqueResult (x : Expr) : Answer σ η (Option Value) :=
  s.ask e state [x] .unique Output.single

/-- Count first, and fetch the page only when there are rows. -/
def page (x : Expr) : Answer σ η (Page Value) :=
  match s.ask e state [x] .count Output.total with
  | (.error cause, s, state) => (.error cause, s, state)
  | (.ok total, s, state) =>
    if total = 0 then (.ok .empty, s, state)
    else
      let (values, s', state) := s.list e state x
      (values.map fun values => ⟨values, s.clauses.window, total⟩, s', state)

/-- Release every handle. -/
def close : Session η × σ :=
  let (handles, state) := s.handles.releaseAll e state
  ({ s with handles }, state)

/-- The state of the engine after the session is given up. -/
def drop : σ := (s.close e state).2

end Session

end StoreQuery
