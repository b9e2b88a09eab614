import StoreQuery.Json.Reader
import StoreQuery.Operator
import StoreQuery.Value

/-!
# Expressions

A query asks about the objects of its sources. `Source` names a class of objects and the variable
that stands for one of them, `Path` navigates from a variable through properties, and `Expr` is a
tree of operators over paths, literals and class names.

* `Expr.beq` compares trees, literals by the equality of values;
* the functions named after operators apply them, the receiver first;
* `SortKey` pairs an expression with a direction.
-/

namespace StoreQuery

/-! ### Sources and paths -/

/-- Navigation from a variable through properties, the outermost first. -/
structure Path where
  /-- The variable. -/
  root : String
  /-- The properties. -/
  segments : List String
deriving DecidableEq

namespace Path

/-- The variable itself. -/
def ofRoot (root : String) : Path := ⟨root, []⟩

/-- One property further. -/
def get (p : Path) (segment : String) : Path := { p with segments := p.segments ++ [segment] }

/-- The path names a variable rather than a property. -/
def isRoot (p : Path) : Bool := p.segments.isEmpty

/-- The variable and the properties, with points between. -/
def text (p : Path) : String := ".".intercalate (p.root :: p.segments)

end Path

/-! ### Expressions -/

/-- An expression tree. -/
inductive Expr where
  /-- A literal; in a query text a label stands for it. -/
  | literal (v : Value)
  /-- A variable or a property. -/
  | path (p : Path)
  /-- The name of a class, written as it is. -/
  | className (name : String)
  /-- An operator applied to operands, left to right. -/
  | apply (op : Operator) (operands : List Expr)
  /-- An object made of columns; only a projection has a place for it. -/
  | construct (className : String) (columns : List Expr)

namespace Expr

mutual
/-- Equality of trees. -/
def beq : Expr → Expr → Bool
  | .literal v, .literal w => v == w
  | .path p, .path q => p == q
  | .className n, .className m => n == m
  | .apply f xs, .apply g ys => f == g && beqList xs ys
  | .construct n xs, .construct m ys => n == m && beqList xs ys
  | _, _ => false

/-- Equality of lists of trees. -/
def beqList : List Expr → List Expr → Bool
  | [], [] => true
  | x :: xs, y :: ys => beq x y && beqList xs ys
  | _, _ => false
end

instance : BEq Expr := ⟨beq⟩

/-! ### Applications -/

/-- The two are equal. -/
def eq (x y : Expr) : Expr := .apply .eq [x, y]

/-- The two differ. -/
def ne (x y : Expr) : Expr := .apply .ne [x, y]

/-- The first is less. -/
def lt (x y : Expr) : Expr := .apply .lt [x, y]

/-- The first is less or equal. -/
def le (x y : Expr) : Expr := .apply .le [x, y]

/-- The first is greater. -/
def gt (x y : Expr) : Expr := .apply .gt [x, y]

/-- The first is greater or equal. -/
def ge (x y : Expr) : Expr := .apply .ge [x, y]

/-- The first lies between the others. -/
def between (x low high : Expr) : Expr := .apply .between [x, low, high]

/-- Both hold. -/
def and (x y : Expr) : Expr := .apply .and [x, y]

/-- One of the two holds. -/
def or (x y : Expr) : Expr := .apply .or [x, y]

/-- It does not hold. -/
def not (x : Expr) : Expr := .apply .not [x]

/-- It is null. -/
def isNull (x : Expr) : Expr := .apply .isNull [x]

/-- It is not null. -/
def isNotNull (x : Expr) : Expr := .apply .isNotNull [x]

/-- The sum of the two. -/
def add (x y : Expr) : Expr := .apply .add [x, y]

/-- The difference of the two. -/
def sub (x y : Expr) : Expr := .apply .sub [x, y]

/-- The product of the two. -/
def mul (x y : Expr) : Expr := .apply .mul [x, y]

/-- The first text starts with the second. -/
def startsWith (x y : Expr) : Expr := .apply .startsWith [x, y]

/-- The first text ends with the second. -/
def endsWith (x y : Expr) : Expr := .apply .endsWith [x, y]

/-- The collection has the second as a member. -/
def contains (x y : Expr) : Expr := .apply .contains [x, y]

/-- The text in lower case. -/
def lower (x : Expr) : Expr := .apply .lower [x]

/-- The size of the collection. -/
def size (x : Expr) : Expr := .apply .size [x]

/-- The number of rows with a value. -/
def count (x : Expr) : Expr := .apply .count [x]

/-- The sum over the rows. -/
def sum (x : Expr) : Expr := .apply .sum [x]

/-- The maximum over the rows. -/
def max (x : Expr) : Expr := .apply .max [x]

end Expr

/-- A class of objects that a query ranges over, and the variable for one of them. -/
structure Source where
  /-- The name of the class. -/
  className : String
  /-- The variable. -/
  var : String
deriving DecidableEq

namespace Source

/-- The path to the object itself. -/
def path (s : Source) : Path := .ofRoot s.var

/-- The object itself. -/
def expr (s : Source) : Expr := .path s.path

/-- A property of the object. -/
def prop (s : Source) (name : String) : Expr := .path (s.path.get name)

end Source

/-- The expression is the object of `s` and nothing more. -/
def Expr.isSource (s : Source) : Expr → Bool
  | .path p => p.isRoot && p.root == s.var
  | _ => false

/-! ### Sorting -/

/-- A direction of sorting. -/
inductive Direction where
  /-- Smallest first. -/
  | ascending
  /-- Greatest first. -/
  | descending
deriving DecidableEq

namespace Direction

/-- The word for a direction in a query text. -/
def keyword : Direction → String
  | .ascending => "ascending"
  | .descending => "descending"

/-- The short name of a direction. -/
def name : Direction → String
  | .ascending => "Asc"
  | .descending => "Desc"

/-- The direction with a given short name. -/
def ofName? (name : String) : Option Direction :=
  [ascending, descending].find? fun d => d.name == name

/-- The JSON form of a direction. -/
def toJson (d : Direction) : Json := .string d.name

/-- Read the JSON form: the name, or an object with the name as its one key and null under it. -/
def ofJson? : Json → Option Direction
  | .string name => ofName? name
  | .object [(name, .null)] => ofName? name
  | _ => none

/-- Read the JSON form from a text. -/
def ofText? (text : String) : Option Direction := (Json.ofText? text).bind ofJson?

end Direction

/-- What to sort by. -/
structure SortKey where
  /-- The expression to compare. -/
  target : Expr
  /-- The direction. -/
  direction : Direction

end StoreQuery
