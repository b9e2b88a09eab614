import StoreQuery.Bindings
import StoreQuery.Engine
import StoreQuery.Window

/-!
# Plans

A `Plan` is a query with all its texts written: what an engine has to be told to answer it. A plan
that counts has neither rows nor columns nor an order, and its shape has no place for them.

* `Plan.settings` lists what the engine is told, in order.
-/

namespace StoreQuery

/-- The clauses of a plan that returns rows. -/
structure RowClauses where
  /-- The rows that are wanted. -/
  range : Option (UInt64 × UInt64)
  /-- The text of the columns; without it a row is the object itself. -/
  result : Option String
  /-- The text of the order. -/
  ordering : Option String
  /-- One row is wanted instead of a list. -/
  unique : Bool
deriving DecidableEq

/-- What a plan returns. -/
inductive PlanShape where
  /-- The number of objects. -/
  | count (distinct : Bool)
  /-- Rows. -/
  | rows (clauses : RowClauses)
deriving DecidableEq

/-- The short name of a shape. -/
def PlanShape.name : PlanShape → String
  | .count _ => "count"
  | .rows clauses => if clauses.unique then "unique" else "rows"

/-- A query ready for an engine. -/
structure Plan where
  /-- The class of the candidate. -/
  primaryClass : String
  /-- The text of the condition on objects. -/
  filter : Option String
  /-- The declaration of the other sources. -/
  auxiliary : Option String
  /-- The text of the groups and of the condition on them. -/
  grouping : Option String
  /-- What is returned. -/
  shape : PlanShape
  /-- The parameters. -/
  parameters : Bindings

namespace Plan

/-- The result of a count. -/
def countResult : String := "count(this)"

/-- The result of a count of distinct objects. -/
def distinctCountResult : String := "distinct count(this)"

/-- The result that is the distinct objects themselves. -/
def distinctThis : String := "distinct this"

variable (p : Plan)

/-- The text of the result. -/
def result : Option String :=
  match p.shape with
  | .count distinct => some (if distinct then distinctCountResult else countResult)
  | .rows clauses => clauses.result

/-- The text of the order. -/
def ordering : Option String :=
  match p.shape with
  | .count _ => none
  | .rows clauses => clauses.ordering

/-- The rows that are wanted. -/
def range : Option (UInt64 × UInt64) :=
  match p.shape with
  | .count _ => none
  | .rows clauses => clauses.range

/-- A single row is wanted. -/
def isUnique : Bool :=
  match p.shape with
  | .count _ => true
  | .rows clauses => clauses.unique

/-- What an engine is told about the plan. -/
def settings : List Setting :=
  (p.filter.map .filter).toList ++
  (p.auxiliary.map .auxiliary).toList ++
  (p.grouping.map .grouping).toList ++
  (p.range.map fun r => .range r.1 r.2).toList ++
  (p.result.map .result).toList ++
  (p.ordering.map .ordering).toList ++
  (p.parameters.declaration.map .parameters).toList ++
  (if p.isUnique then [.unique true] else [])

end Plan

/-! ### JSON form -/

/-- The JSON form of a range of rows. -/
def rangeToJson (r : UInt64 × UInt64) : Json := .array [.word r.1, .word r.2]

/-- The JSON form of a shape. -/
def PlanShape.toJson : PlanShape → Json
  | .count distinct => .object [("kind", .string "count"), ("distinct", .bool distinct)]
  | .rows clauses => .object
      [("kind", .string "rows"), ("range", .option rangeToJson clauses.range),
       ("result", .option .string clauses.result),
       ("ordering", .option .string clauses.ordering), ("unique", .bool clauses.unique)]

/-- The JSON form of a plan. -/
def Plan.toJson (p : Plan) : Json :=
  .object
    [("primary_type", .string p.primaryClass), ("filter", .option .string p.filter),
     ("variables", .option .string p.auxiliary), ("grouping", .option .string p.grouping),
     ("shape", p.shape.toJson), ("parameters", p.parameters.toJson)]

end StoreQuery
