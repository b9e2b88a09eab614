/-!
# Operators

`Operator` lists the operators a query may apply, in the order in which they are presented.

* `Operator.name` is the name an operator has in settings and `Operator.ofName?` looks it up;
* `Operator.arity` is the number of operands it takes;
* `Operator.isAssociative` holds of the operators whose operands may be regrouped.

How an operator is written in a query text is the matter of `StoreQuery.Grammar`.
-/

namespace StoreQuery

/-- An operator of the query language. -/
inductive Operator where
  /-- Logical conjunction. -/
  | and
  /-- Logical disjunction. -/
  | or
  /-- Logical negation. -/
  | not
  /-- Equality. -/
  | eq
  /-- Inequality. -/
  | ne
  /-- Strictly less than. -/
  | lt
  /-- Less than or equal. -/
  | le
  /-- Strictly greater than. -/
  | gt
  /-- Greater than or equal. -/
  | ge
  /-- Test against a range that includes both ends. -/
  | between
  /-- Null test. -/
  | isNull
  /-- Non-null test. -/
  | isNotNull
  /-- Addition. -/
  | add
  /-- Subtraction. -/
  | sub
  /-- Multiplication. -/
  | mul
  /-- Division. -/
  | div
  /-- Remainder. -/
  | rem
  /-- Arithmetic negation. -/
  | neg
  /-- A text starts with another. -/
  | startsWith
  /-- A text ends with another. -/
  | endsWith
  /-- A text matches a regular expression. -/
  | matches
  /-- A text contains another. -/
  | stringContains
  /-- Position of a text in another. -/
  | indexOf
  /-- Lower-case form of a text. -/
  | lower
  /-- Upper-case form of a text. -/
  | upper
  /-- Length of a text. -/
  | length
  /-- Part of a text between two positions. -/
  | substring
  /-- Character of a text at a position. -/
  | charAt
  /-- Membership in a collection. -/
  | contains
  /-- Emptiness of a collection. -/
  | isEmpty
  /-- Non-emptiness of a collection. -/
  | isNotEmpty
  /-- Size of a collection. -/
  | size
  /-- Membership among the keys of a map. -/
  | containsKey
  /-- Membership among the values of a map. -/
  | containsValue
  /-- Look-up in a map. -/
  | get
  /-- Absolute value. -/
  | abs
  /-- Square root. -/
  | sqrt
  /-- Number of rows. -/
  | count
  /-- Number of distinct rows. -/
  | countDistinct
  /-- Sum. -/
  | sum
  /-- Mean. -/
  | avg
  /-- Minimum. -/
  | min
  /-- Maximum. -/
  | max
  /-- Test of an object's class. -/
  | instanceOf
deriving DecidableEq

namespace Operator

/-- Every operator, once. -/
def all : List Operator :=
  [.and, .or, .not, .eq, .ne, .lt, .le, .gt, .ge, .between, .isNull, .isNotNull, .add, .sub,
   .mul, .div, .rem, .neg, .startsWith, .endsWith, .matches, .stringContains, .indexOf, .lower,
   .upper, .length, .substring, .charAt, .contains, .isEmpty, .isNotEmpty, .size, .containsKey,
   .containsValue, .get, .abs, .sqrt, .count, .countDistinct, .sum, .avg, .min, .max,
   .instanceOf]

/-- The name of an operator in settings. -/
def name : Operator → String
  | .and => "and"
  | .or => "or"
  | .not => "not"
  | .eq => "eq"
  | .ne => "ne"
  | .lt => "lt"
  | .le => "le"
  | .gt => "gt"
  | .ge => "ge"
  | .between => "between"
  | .isNull => "is_null"
  | .isNotNull => "is_not_null"
  | .add => "add"
  | .sub => "sub"
  | .mul => "mul"
  | .div => "div"
  | .rem => "rem"
  | .neg => "neg"
  | .startsWith => "starts_with"
  | .endsWith => "ends_with"
  | .matches => "matches"
  | .stringContains => "string_contains"
  | .indexOf => "index_of"
  | .lower => "lower"
  | .upper => "upper"
  | .length => "length"
  | .substring => "substring"
  | .charAt => "char_at"
  | .contains => "contains"
  | .isEmpty => "is_empty"
  | .isNotEmpty => "is_not_empty"
  | .size => "size"
  | .containsKey => "contains_key"
  | .containsValue => "contains_value"
  | .get => "get"
  | .abs => "abs"
  | .sqrt => "sqrt"
  | .count => "count"
  | .countDistinct => "count_distinct"
  | .sum => "sum"
  | .avg => "avg"
  | .min => "min"
  | .max => "max"
  | .instanceOf => "instance_of"

/-- The operator with a given name. -/
def ofName? (name : String) : Option Operator := all.find? fun op => op.name == name

/-- The number of operands an operator takes. -/
def arity : Operator → Nat
  | .not | .neg | .isNull | .isNotNull | .lower | .upper | .length | .isEmpty | .isNotEmpty
  | .size | .abs | .sqrt | .count | .countDistinct | .sum | .avg | .min | .max => 1
  | .between | .substring => 3
  | _ => 2

/-- Operators whose operands may be regrouped freely. -/
def isAssociative : Operator → Bool
  | .and | .or | .add | .mul => true
  | _ => false

theorem mem_all (op : Operator) : op ∈ all := by cases op <;> decide

theorem ofName?_name (op : Operator) : ofName? op.name = some op := by cases op <;> decide

end Operator

end StoreQuery
