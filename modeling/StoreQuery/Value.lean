import StoreQuery.Binary64

/-!
# Values

A `Value` is a literal of a query, a bound parameter or a cell of a result row. It carries its
kind, so that the class named where a parameter is declared is the class of the value bound to it.

* `Value.className` names that class;
* `Value.beq` is equality as queries see it: numbers of different kinds differ, and so does a NaN
  from itself;
* `Value.ofFields` builds an object whose fields are in ascending order.
-/

namespace StoreQuery

/-- A value exchanged with the store. -/
inductive Value where
  /-- The null literal. -/
  | null
  /-- A truth value. -/
  | bool (b : Bool)
  /-- A 32-bit integer. -/
  | int (n : Int32)
  /-- A 64-bit integer. -/
  | long (n : Int64)
  /-- A double-precision number. -/
  | double (x : Binary64)
  /-- A text. -/
  | string (s : String)
  /-- Binary data. -/
  | bytes (b : List UInt8)
  /-- Milliseconds since the start of 1970 in universal time. -/
  | dateTime (millis : Int64)
  /-- An object, as its fields in ascending order of their names, each name once. -/
  | object (fields : List (String × Value))

namespace Value

mutual
/-- Equality of values. -/
def beq : Value → Value → Bool
  | .null, .null => true
  | .bool a, .bool b => a == b
  | .int a, .int b => a == b
  | .long a, .long b => a == b
  | .double a, .double b => a.numEq b
  | .string a, .string b => a == b
  | .bytes a, .bytes b => a == b
  | .dateTime a, .dateTime b => a == b
  | .object a, .object b => beqFields a b
  | _, _ => false

/-- Equality of field lists: the same names with equal values, in the same order. -/
def beqFields : List (String × Value) → List (String × Value) → Bool
  | [], [] => true
  | (n, a) :: as, (m, b) :: bs => n == m && beq a b && beqFields as bs
  | _, _ => false
end

instance : BEq Value := ⟨beq⟩

/-- The class that a parameter bound to the value is declared with. -/
def className : Value → String
  | .null => "Object"
  | .bool _ => "Boolean"
  | .int _ => "Integer"
  | .long _ => "Long"
  | .double _ => "Double"
  | .string _ => "String"
  | .bytes _ => "byte[]"
  | .dateTime _ => "Date"
  | .object _ => "Object"

/-- The value is the null literal. -/
def isNull : Value → Bool
  | .null => true
  | _ => false

/-- The number of an integer of either width. -/
def asLong? : Value → Option Int64
  | .int n => some n.toInt64
  | .long n => some n
  | _ => none

/-- The text of a text value. -/
def asString? : Value → Option String
  | .string s => some s
  | _ => none

/-! ### Objects -/

/-- Put a field into a list of fields in ascending order; a field of that name is replaced. -/
def insertField (name : String) (v : Value) : List (String × Value) → List (String × Value)
  | [] => [(name, v)]
  | (n, w) :: rest =>
    if name < n then (name, v) :: (n, w) :: rest
    else if name = n then (name, v) :: rest
    else (n, w) :: insertField name v rest

/-- The object with the given fields; of several fields of one name the last counts. -/
def ofFields (fields : List (String × Value)) : Value :=
  .object (fields.foldl (fun sorted field => insertField field.1 field.2 sorted) [])

end Value

end StoreQuery
