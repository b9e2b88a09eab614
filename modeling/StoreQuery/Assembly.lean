import StoreQuery.Clauses
import StoreQuery.Config
import StoreQuery.Plan

/-!
# Assembling plans

`assemble` writes the texts of a query and gathers its parameters. The condition on objects, the
groups with their condition, and the columns are one pass each, with labels of their own; the
parameters are those of the passes in this order. The order is written without parameters.

No label of any pass is the variable of a source.
-/

namespace StoreQuery

/-- What a query is asked for. -/
inductive Mode where
  /-- The number of objects. -/
  | count
  /-- The rows of a window. -/
  | list (window : Window)
  /-- At most one row. -/
  | unique

/-- The text of the condition on objects, if there is one, and its labels. -/
structure FilterClause where
  /-- The text. -/
  text : Option String
  /-- The labels. -/
  bindings : Bindings

/-- What the clauses of a query are written from: its settings and sources, the first of which is
the candidate. -/
structure Frame where
  /-- The settings. -/
  config : Config
  /-- The first source. -/
  candidate : Source
  /-- The other sources. -/
  others : List Source

namespace Frame

/-- The frame of a query that has a source. -/
def ofSources? (config : Config) : List Source → Option Frame
  | [] => none
  | candidate :: others => some ⟨config, candidate, others⟩

variable (f : Frame)

/-- The variables of the sources. -/
def vars : List String := (f.candidate :: f.others).map (·.var)

/-- How a clause with the given labels is written. -/
def pass (scheme : LabelScheme) : Pass :=
  ⟨f.config.patterns, f.candidate, some scheme, f.vars⟩

/-- How a clause without labels is written. -/
def plainPass : Pass := ⟨f.config.patterns, f.candidate, none, []⟩

/-- Write a clause. -/
def clause (w : Writer) : Except QueryError Draft := w.clause.mapError .clause

/-- Append the labels of a clause to the parameters. -/
def mergeLabels (parameters : Bindings) (d : Draft) : Except QueryError Bindings :=
  match parameters.merge d.bindings.entries with
  | (merged, none) => .ok merged
  | (_, some label) => .error (.duplicateLabel label)

/-- The declaration of the other sources, if there are any. -/
def declaration : Option String :=
  if f.others.isEmpty then none
  else some (", ".intercalate (f.others.map fun s => s.className ++ " " ++ s.var))

/-- Write the condition on objects. -/
def filterClause (c : Clauses) : Except QueryError FilterClause :=
  match c.filter with
  | none => .ok ⟨none, .empty⟩
  | some x =>
    (clause ((f.pass Config.filterLabels).write x)).map fun d => ⟨some d.text, d.bindings⟩

/-- How the groups and their condition are written. -/
def groupingWriter (c : Clauses) : Writer :=
  let pass := f.pass f.config.groupLabels
  let groups := pass.writeList ", " c.groupBy
  match c.having with
  | none => groups
  | some x => groups.andThen ((Writer.text " having ").andThen (pass.write x))

/-- Write the groups and their condition, and add their labels. -/
def grouping (c : Clauses) (parameters : Bindings) :
    Except QueryError (Option String × Bindings) :=
  if c.groupBy.isEmpty then .ok (none, parameters)
  else do
    let d ← clause (f.groupingWriter c)
    return (some d.text, ← mergeLabels parameters d)

/-- The columns are the candidate itself, so that they need not be written. -/
def isCandidate : List Expr → Bool
  | [x] => x.isSource f.candidate
  | _ => false

/-- How columns are written. -/
def columnsWriter (distinct : Bool) (columns : List Expr) : Writer :=
  let list := (f.pass f.config.columnLabels).writeList ", " columns
  if distinct then (Writer.text "distinct ").andThen list else list

/-- Write the columns and add their labels. -/
def result (c : Clauses) (columns : List Expr) (parameters : Bindings) :
    Except QueryError (Option String × Bindings) :=
  if columns.isEmpty || f.isCandidate columns then
    .ok (if c.distinct then some Plan.distinctThis else none, parameters)
  else do
    let d ← clause (f.columnsWriter c.distinct columns)
    return (some d.text, ← mergeLabels parameters d)

/-- Write the order. -/
def ordering (c : Clauses) : Except QueryError (Option String) :=
  if c.sort.isEmpty then .ok none
  else (clause (f.plainPass.writeSort c.sort)).map fun d => some d.text

/-- Write what only plans with rows have. -/
def rowClauses (c : Clauses) (columns : List Expr) (window : Window) (unique : Bool)
    (parameters : Bindings) : Except QueryError (RowClauses × Bindings) := do
  let (result, parameters) ← f.result c columns parameters
  let ordering ← f.ordering c
  return (⟨window.range, result, ordering, unique⟩, parameters)

/-- Write what the mode asks for. A single row needs a window of one row. -/
def shape (c : Clauses) (columns : List Expr) (mode : Mode) (parameters : Bindings) :
    Except QueryError (PlanShape × Bindings) :=
  match mode with
  | .count => .ok (.count c.distinct, parameters)
  | .list window => do
    let (clauses, parameters) ← f.rowClauses c columns window false parameters
    return (.rows clauses, parameters)
  | .unique => do
    let (clauses, parameters) ← f.rowClauses c columns (.first 1) true parameters
    return (.rows clauses, parameters)

/-- Assemble a plan from the clauses, the condition on objects being written already; `columns`
are all columns that are wanted. -/
def assemble (c : Clauses) (columns : List Expr) (filter : FilterClause) (mode : Mode) :
    Except QueryError Plan := do
  let (grouping, parameters) ← f.grouping c filter.bindings
  let (shape, parameters) ← f.shape c columns mode parameters
  return ⟨f.candidate.className, filter.text, f.declaration, grouping, shape, parameters⟩

end Frame

/-- The plan of a query with the given sources and clauses, whose rows have `extra` columns after
those of the clauses. -/
def planOf (config : Config) (sources : List Source) (c : Clauses) (extra : List Expr)
    (mode : Mode) : Except QueryError Plan :=
  match Frame.ofSources? config sources with
  | none => .error .noSource
  | some f => do
    let filter ← f.filterClause c
    f.assemble c (c.addColumns extra).columns filter mode

end StoreQuery
