import StoreQuery.Proofs.Expr.Literals

/-!
# Paths and their replacement

A query names its sources where paths begin. Here the paths of a query are listed, and a variable is
given another name wherever it stands.

* `Expr.paths`, `Clauses.paths` : the paths of an expression and of all clauses;
* `Expr.mapPaths` : every path replaced;
* `Path.rename`, `Source.rename` : a variable renamed.
-/

namespace StoreQuery

namespace Expr

mutual
/-- The paths of an expression, left to right. -/
def paths : Expr → List Path
  | .literal _ => []
  | .path q => [q]
  | .className _ => []
  | .apply _ xs => pathsOfAll xs
  | .construct _ xs => pathsOfAll xs

/-- The paths of several expressions. -/
def pathsOfAll : List Expr → List Path
  | [] => []
  | x :: xs => paths x ++ pathsOfAll xs
end

@[simp] theorem pathsOfAll_eq_flatMap (xs : List Expr) : pathsOfAll xs = xs.flatMap paths := by
  induction xs with
  | nil => rfl
  | cons x xs ih => simp [pathsOfAll, ih]

theorem paths_apply (op : Operator) (xs : List Expr) :
    (Expr.apply op xs).paths = xs.flatMap paths := by simp [paths]

theorem paths_construct (name : String) (xs : List Expr) :
    (Expr.construct name xs).paths = xs.flatMap paths := by simp [paths]

variable (g : Path → Path)

mutual
/-- Replace every path. -/
def mapPaths : Expr → Expr
  | .literal v => .literal v
  | .path q => .path (g q)
  | .className name => .className name
  | .apply op xs => .apply op (mapPathsOfAll xs)
  | .construct name xs => .construct name (mapPathsOfAll xs)

/-- Replace every path of several expressions. -/
def mapPathsOfAll : List Expr → List Expr
  | [] => []
  | x :: xs => mapPaths x :: mapPathsOfAll xs
end

@[simp] theorem mapPathsOfAll_eq_map (xs : List Expr) :
    mapPathsOfAll g xs = xs.map (mapPaths g) := by
  induction xs with
  | nil => rfl
  | cons x xs ih => simp [mapPathsOfAll, ih]

theorem keepsShape_mapPaths : KeepsShape (mapPaths g) where
  literal v := ⟨v, rfl⟩
  path q := ⟨g q, rfl⟩
  className _ := rfl
  apply op xs := by simp [mapPaths]
  construct name xs := by simp [mapPaths]

end Expr

namespace Clauses

/-- The paths of the clauses. -/
def paths (c : Clauses) : List Path := c.exprs.flatMap Expr.paths

theorem paths_columns_subset (c : Clauses) (extra : List Expr) :
    (c.addColumns extra).columns.flatMap Expr.paths ⊆ c.paths ++ extra.flatMap Expr.paths :=
  columns_flatMap_subset Expr.paths_construct c extra

end Clauses

/-! ### Renaming -/

/-- The path from the variable with its new name. -/
def Path.rename (old new : String) (q : Path) : Path :=
  if q.root = old then { q with root := new } else q

/-- The source with the new name of its variable. -/
def Source.rename (old new : String) (s : Source) : Source :=
  if s.var = old then { s with var := new } else s

/-- Rename a variable in an expression. -/
def Expr.rename (old new : String) : Expr → Expr := Expr.mapPaths (Path.rename old new)

theorem Expr.keepsShape_rename (old new : String) : KeepsShape (Expr.rename old new) :=
  keepsShape_mapPaths _

end StoreQuery
