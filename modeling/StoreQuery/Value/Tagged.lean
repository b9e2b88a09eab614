import StoreQuery.Json.Reader
import StoreQuery.Value

/-!
# The tagged JSON form of values

A value is written as an object with the name of its kind under `t` and its content under `v`; the
null value has no content. `Value.toJson` writes the form and `Value.ofJson?` reads it; both are
defined on trees. `Value.ofText?` reads a text and is stricter in one way and laxer in another: it
limits the nesting, and it reads content that comes before its tag from a copy.
-/

namespace StoreQuery

namespace Value

/-- The kind of a value. -/
inductive Kind where
  /-- The null literal. -/
  | null
  /-- Truth values. -/
  | bool
  /-- 32-bit integers. -/
  | int
  /-- 64-bit integers. -/
  | long
  /-- Double-precision numbers. -/
  | double
  /-- Texts. -/
  | string
  /-- Binary data. -/
  | bytes
  /-- Points in time. -/
  | dateTime
  /-- Objects. -/
  | object
deriving DecidableEq

namespace Kind

/-- The tag of a kind. -/
def tag : Kind → String
  | .null => "Null"
  | .bool => "Bool"
  | .int => "Int"
  | .long => "Long"
  | .double => "Float"
  | .string => "String"
  | .bytes => "Bytes"
  | .dateTime => "DateTime"
  | .object => "Object"

/-- Every kind, once. -/
def all : List Kind :=
  [.null, .bool, .int, .long, .double, .string, .bytes, .dateTime, .object]

/-- The kind with a given tag. -/
def ofTag? (tag : String) : Option Kind := all.find? fun kind => kind.tag == tag

end Kind

/-! ### Writing -/

/-- The object of a kind and its content. -/
def tagged (kind : Kind) (content : Json) : Json :=
  .object [("t", .string kind.tag), ("v", content)]

mutual
/-- The tagged form. A double that is no number has the content null. -/
def toJson : Value → Json
  | .null => .object [("t", .string Kind.null.tag)]
  | .bool b => tagged .bool (.bool b)
  | .int n => tagged .int (.int n.toInt)
  | .long n => tagged .long (.int n.toInt)
  | .double x => tagged .double (.number x)
  | .string s => tagged .string (.string s)
  | .bytes b => tagged .bytes (.array (b.map fun byte => .int byte.toNat))
  | .dateTime n => tagged .dateTime (.int n.toInt)
  | .object fields => tagged .object (.object (fieldsToJson fields))

/-- The fields of an object, each tagged. -/
def fieldsToJson : List (String × Value) → List (String × Json)
  | [] => []
  | (name, v) :: rest => (name, v.toJson) :: fieldsToJson rest
end

/-! ### Reading -/

/-- How a tree is read: how many more levels of arrays and objects may be entered, if there is a
limit, and whether it is read from a copy. -/
structure Reading where
  /-- The levels left. -/
  room : Option Nat
  /-- The tree is a copy, made because its tag came late. -/
  copied : Bool

namespace Reading

/-- Go down one level. -/
def enter (r : Reading) : Option Reading :=
  match r.room with
  | none => some r
  | some 0 => none
  | some (n + 1) => some { r with room := some n }

/-- A copy of `content` can be made: it fits the room and has a value everywhere. -/
def admits (r : Reading) (content : Json) : Bool :=
  content.isReadable && match r.room with
    | none => true
    | some n => content.depth ≤ n

end Reading

/-- The payload of a tag that is written as an object: null, or in a copy also `{}`. -/
def isUnit (r : Reading) : Json → Bool
  | .null => true
  | .object [] => r.copied
  | _ => false

/-- The kind that a tag names. A tag is a text or an object with the text as its one key. -/
def kindOfTag? (r : Reading) : Json → Option Kind
  | .string tag => Kind.ofTag? tag
  | .object [(tag, payload)] => do
    let r ← r.enter
    if isUnit r payload then Kind.ofTag? tag else none
  | _ => none

/-- An integer in the range of its width. -/
def ranged (low high n : Int) : Option Int := if low ≤ n ∧ n ≤ high then some n else none

/-- The 32-bit integer of a node. -/
def int32? : Json → Option Int32
  | .int n => (ranged Int32.minValue.toInt Int32.maxValue.toInt n).map Int32.ofInt
  | _ => none

/-- The 64-bit integer of a node. -/
def int64? : Json → Option Int64
  | .int n => (ranged Int64.minValue.toInt Int64.maxValue.toInt n).map Int64.ofInt
  | _ => none

/-- The byte of a node. -/
def byte? : Json → Option UInt8
  | .int n => (ranged 0 255 n).map fun n => n.toNat.toUInt8
  | _ => none

/-- The double of a node; an integer is rounded to the nearest. -/
def double? : Json → Option Binary64
  | .double x => some x
  | .int n => (Binary64.ofNat n.natAbs).map fun x => if n < 0 then x.negate else x
  | _ => none

/-- The content of a kind without fields. -/
def simple? (r : Reading) (kind : Kind) (content : Json) : Option Value :=
  match kind, content with
  | .null, .null => some .null
  | .bool, .bool b => some (.bool b)
  | .int, content => (int32? content).map .int
  | .long, content => (int64? content).map .long
  | .double, content => (double? content).map .double
  | .string, .string s => some (.string s)
  | .bytes, .array items => do
    let _ ← r.enter
    (items.mapM byte?).map .bytes
  | .dateTime, content => (int64? content).map .dateTime
  | _, _ => none

/-- A member that may be the content of a value: the node and the way to read it. -/
abbrev Content := Json × (Reading → Kind → Option Value)

/-- The kind that the first item of an array names: by its tag, or in a copy also by its place among
the kinds. -/
def kindOfItem? (r : Reading) : Json → Option Kind
  | .string tag => Kind.ofTag? tag
  | .int n => if r.copied ∧ 0 ≤ n then Kind.all[n.toNat]? else none
  | _ => none

/-- Read a tag and the content that follows it. -/
def tagFirst (r : Reading) (tag : Json) (content : Content) : Option Value := do
  content.2 r (← kindOfTag? r tag)

/-- Read content that comes before its tag, from a copy without a limit. -/
def tagLast (r : Reading) (content : Content) (tag : Json) : Option Value :=
  if r.admits content.1 then do content.2 ⟨none, true⟩ (← kindOfTag? r tag) else none

/-- Read a value from the members of its object. Of the members only `t` and `v` count, and each
must be there once; the null value may lack its content. -/
def ofMembers? (r : Reading) (members : List (String × Content)) : Option Value :=
  match members.filter fun m => m.1 == "t" || m.1 == "v" with
  | [("t", tag, _)] => do if (← kindOfTag? r tag) = .null then some .null else none
  | [("t", tag, _), ("v", content)] => tagFirst r tag content
  | [("v", content), ("t", tag, _)] => tagLast r content tag
  | _ => none

/-- Read a value from an array of its tag and its content. -/
def ofItems? (r : Reading) : List Content → Option Value
  | [(tag, _), content] => do content.2 r (← kindOfItem? r tag)
  | _ => none

mutual
/-- Read a value. -/
def read : Json → Reading → Option Value
  | .object members, r => do ofMembers? (← r.enter) (memberContents members)
  | .array items, r => do ofItems? (← r.enter) (itemContents items)
  | _, _ => none

/-- Read the content of a kind. -/
def readContent : Json → Reading → Kind → Option Value
  | .object members, r, .object => do readFields members (← r.enter) []
  | content, r, kind => simple? r kind content

/-- Read the fields of an object. -/
def readFields : List (String × Json) → Reading → List (String × Value) → Option Value
  | [], _, fields => some (ofFields fields)
  | (name, v) :: rest, r, fields => do readFields rest r (fields ++ [(name, ← read v r)])

/-- The members of an object as possible contents. -/
def memberContents : List (String × Json) → List (String × Content)
  | [] => []
  | (name, j) :: rest => (name, j, readContent j) :: memberContents rest

/-- The items of an array as possible contents. -/
def itemContents : List Json → List Content
  | [] => []
  | j :: rest => (j, readContent j) :: itemContents rest
end

/-- Read the tagged form. -/
def ofJson? (j : Json) : Option Value := read j ⟨none, false⟩

/-- The number of levels of arrays and objects that a text may have. -/
def textDepth : Nat := 127

/-- Read the tagged form from a text. -/
def ofText? (text : String) : Option Value := do read (← Json.ofText? text) ⟨some textDepth, false⟩

end Value

end StoreQuery
