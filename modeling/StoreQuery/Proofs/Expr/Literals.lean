import StoreQuery.Proofs.Expr.Shape

/-!
# Literals and their replacement

A query holds literals wherever its expressions do, also in places that are never written. Here
they are listed, and replaced through a map on values.

* `Expr.literals`, `Clauses.literals` : the literals of an expression and of all clauses;
* `Expr.mapLiterals`, `Clauses.mapLiterals` : every literal replaced;
* `Value.Faithful` : a map on values under which the literals compare as before.
-/

namespace StoreQuery

/-- Under the map the values compare as before: what was equal stays so, what differed stays so,
also from itself, and exactly null is null. -/
structure Value.Faithful (f : Value → Value) (vs : List Value) : Prop where
  /-- Equality is kept. -/
  beq : ∀ u ∈ vs, ∀ v ∈ vs, (f u == f v) = (u == v)
  /-- Null is kept. -/
  isNull : ∀ v ∈ vs, (f v).isNull = v.isNull

namespace Expr

mutual
/-- The literals of an expression, left to right. -/
def literals : Expr → List Value
  | .literal v => [v]
  | .path _ => []
  | .className _ => []
  | .apply _ xs => literalsOfAll xs
  | .construct _ xs => literalsOfAll xs

/-- The literals of several expressions. -/
def literalsOfAll : List Expr → List Value
  | [] => []
  | x :: xs => literals x ++ literalsOfAll xs
end

@[simp] theorem literalsOfAll_eq_flatMap (xs : List Expr) :
    literalsOfAll xs = xs.flatMap literals := by
  induction xs with
  | nil => rfl
  | cons x xs ih => simp [literalsOfAll, ih]

theorem literals_apply (op : Operator) (xs : List Expr) :
    (Expr.apply op xs).literals = xs.flatMap literals := by simp [literals]

variable (f : Value → Value)

mutual
/-- Replace every literal. -/
def mapLiterals : Expr → Expr
  | .literal v => .literal (f v)
  | .path p => .path p
  | .className name => .className name
  | .apply op xs => .apply op (mapLiteralsOfAll xs)
  | .construct name xs => .construct name (mapLiteralsOfAll xs)

/-- Replace every literal of several expressions. -/
def mapLiteralsOfAll : List Expr → List Expr
  | [] => []
  | x :: xs => mapLiterals x :: mapLiteralsOfAll xs
end

@[simp] theorem mapLiteralsOfAll_eq_map (xs : List Expr) :
    mapLiteralsOfAll f xs = xs.map (mapLiterals f) := by
  induction xs with
  | nil => rfl
  | cons x xs ih => simp [mapLiteralsOfAll, ih]

theorem keepsShape_mapLiterals : KeepsShape (mapLiterals f) where
  literal v := ⟨f v, rfl⟩
  path q := ⟨q, rfl⟩
  className _ := rfl
  apply op xs := by simp [mapLiterals]
  construct name xs := by simp [mapLiterals]

theorem isSource_mapLiterals (s : Source) (x : Expr) :
    (x.mapLiterals f).isSource s = x.isSource s := by
  cases x <;> rfl

end Expr

/-- Replace every literal of what is sorted by. -/
def SortKey.mapLiterals (f : Value → Value) (key : SortKey) : SortKey :=
  { key with target := key.target.mapLiterals f }

namespace Clauses

/-- The expressions of the clauses. -/
def exprs (c : Clauses) : List Expr :=
  c.filter.toList ++ c.groupBy ++ c.having.toList ++ c.columns ++ c.sort.map (·.target)

/-- The literals of the clauses. -/
def literals (c : Clauses) : List Value := c.exprs.flatMap Expr.literals

variable (f : Value → Value)

/-- Replace every literal of the clauses. -/
def mapLiterals (c : Clauses) : Clauses :=
  { c with
    filter := c.filter.map (Expr.mapLiterals f)
    groupBy := c.groupBy.map (Expr.mapLiterals f)
    having := c.having.map (Expr.mapLiterals f)
    columns := c.columns.map (Expr.mapLiterals f)
    sort := c.sort.map (SortKey.mapLiterals f) }

/-- Columns are added as they are, or as their parts, and either way with what they list. -/
theorem columns_flatMap_subset {α : Type} {list : Expr → List α}
    (parts : ∀ name xs, list (.construct name xs) = xs.flatMap list) (c : Clauses)
    (extra : List Expr) : (c.addColumns extra).columns.flatMap list ⊆
      c.exprs.flatMap list ++ extra.flatMap list := by
  have flattened (x : Expr) : (flatten x).flatMap list = list x := by
    cases x <;> simp [flatten, parts]
  intro a ha
  simp only [addColumns, List.flatMap_append, List.flatMap_assoc, flattened, List.mem_append] at ha
  rcases ha with ha | ha
  · obtain ⟨x, hx, ha⟩ := List.mem_flatMap.1 ha
    exact List.mem_append_left _ (List.mem_flatMap.2 ⟨x, by simp [exprs, hx], ha⟩)
  · exact List.mem_append_right _ ha

theorem literals_columns_subset (c : Clauses) (extra : List Expr) :
    (c.addColumns extra).columns.flatMap Expr.literals ⊆
      c.literals ++ extra.flatMap Expr.literals :=
  columns_flatMap_subset (fun _ _ => by simp [Expr.literals]) c extra

end Clauses

end StoreQuery
