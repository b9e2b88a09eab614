import StoreQuery.Binary64

/-!
# JSON trees

`Json` is the tree that a JSON text stands for. Numbers are told apart as the reader tells them
apart: an integer that fits 64 bits is kept as an integer, any other number is a double.

A node may be `unreadable`: the text is well formed there, but names a character or a number that
does not exist. Whoever takes a value from such a node refuses it; whoever skips it does not look.
-/

namespace StoreQuery

/-- A JSON tree. -/
inductive Json where
  /-- The null literal. -/
  | null
  /-- A truth value. -/
  | bool (b : Bool)
  /-- An integer. -/
  | int (n : Int)
  /-- A number that is no integer, or too large for one. -/
  | double (x : Binary64)
  /-- A text. -/
  | string (s : String)
  /-- An array. -/
  | array (items : List Json)
  /-- An object, as its members in the order of the text. -/
  | object (members : List (String × Json))
  /-- A well-formed text without a value. -/
  | unreadable

namespace Json

mutual
/-- No node below, and not the node itself, is unreadable. -/
def isReadable : Json → Bool
  | .unreadable => false
  | .array items => itemsReadable items
  | .object members => membersReadable members
  | _ => true

/-- Every item is readable. -/
def itemsReadable : List Json → Bool
  | [] => true
  | item :: rest => item.isReadable && itemsReadable rest

/-- Every member is readable. -/
def membersReadable : List (String × Json) → Bool
  | [] => true
  | (_, value) :: rest => value.isReadable && membersReadable rest
end

mutual
/-- The number of arrays and objects around the innermost node. -/
def depth : Json → Nat
  | .array items => itemsDepth items + 1
  | .object members => membersDepth members + 1
  | _ => 0

/-- The greatest depth of an item. -/
def itemsDepth : List Json → Nat
  | [] => 0
  | item :: rest => max item.depth (itemsDepth rest)

/-- The greatest depth of a member. -/
def membersDepth : List (String × Json) → Nat
  | [] => 0
  | (_, value) :: rest => max value.depth (membersDepth rest)
end

/-- A number as JSON can carry it: there is no text for NaN and the infinities. -/
def number (x : Binary64) : Json := if x.isFinite then .double x else .null

/-- An optional part, absent as null. -/
def option (encode : α → Json) : Option α → Json
  | none => .null
  | some a => encode a

/-- A 64-bit natural. -/
def word (n : UInt64) : Json := .int n.toNat

end Json

end StoreQuery
