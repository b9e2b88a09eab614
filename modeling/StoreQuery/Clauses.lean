import StoreQuery.Error
import StoreQuery.Window

/-!
# Clauses

`Clauses` is what a caller has asked for so far, clause by clause. Conditions are joined with those
that are there, columns and sort keys are appended, and a condition on groups needs a group.
-/

namespace StoreQuery

/-- The clauses of a query. -/
structure Clauses where
  /-- The condition on objects. -/
  filter : Option Expr
  /-- The expressions to group by. -/
  groupBy : List Expr
  /-- The condition on groups. -/
  having : Option Expr
  /-- The columns of a row. -/
  columns : List Expr
  /-- What to sort by. -/
  sort : List SortKey
  /-- Equal rows are wanted once. -/
  distinct : Bool
  /-- The part of the rows that is wanted. -/
  window : Window

namespace Clauses

/-- No clauses. -/
def empty : Clauses := ⟨none, [], none, [], [], false, .all⟩

/-- A condition beside one that may be there. -/
def conjoin (existing : Option Expr) (x : Expr) : Expr :=
  match existing with
  | some y => y.and x
  | none => x

/-- The columns that an expression stands for: an object that is made stands for its parts. -/
def flatten : Expr → List Expr
  | .construct _ columns => columns
  | x => [x]

variable (c : Clauses)

/-- Add a condition on objects. -/
def addFilter (x : Expr) : Clauses := { c with filter := some (conjoin c.filter x) }

/-- Add expressions to group by. -/
def addGroupBy (xs : List Expr) : Clauses := { c with groupBy := c.groupBy ++ xs }

/-- Add a condition on groups. -/
def addHaving (x : Expr) : Except QueryError Clauses :=
  if c.groupBy.isEmpty then .error .havingWithoutGrouping
  else .ok { c with having := some (conjoin c.having x) }

/-- Add columns. -/
def addColumns (xs : List Expr) : Clauses := { c with columns := c.columns ++ xs.flatMap flatten }

/-- Add sort keys. -/
def addSort (keys : List SortKey) : Clauses := { c with sort := c.sort ++ keys }

/-- Say whether equal rows are wanted once. -/
def setDistinct (distinct : Bool) : Clauses := { c with distinct }

/-- Replace the window. -/
def setWindow (window : Window) : Clauses := { c with window }

/-- Keep at most `n` rows. -/
def setLimit (n : UInt64) : Clauses := { c with window := c.window.withLimit n }

/-- Skip `n` rows. -/
def setOffset (n : UInt64) : Clauses := { c with window := c.window.withOffset n }

end Clauses

end StoreQuery
