/-!
# Templates

A `Template` says how an operator is written: fixed text with placeholders for operands, such as
`{0}.startsWith({1})`.

* `Template.parse` reads the source form, in which a placeholder is an index between braces;
* `Template.source` writes it again;
* `Template.isEnclosed` tells the placeholders that stand alone between parentheses or commas,
  where an operand needs no parentheses of its own.
-/

namespace StoreQuery

/-- A piece of a template. -/
inductive Segment where
  /-- Text as it is. -/
  | text (s : String)
  /-- The operand with the given index. -/
  | operand (index : Nat)
deriving DecidableEq

/-- How an operator is written. -/
structure Template where
  /-- The pieces, left to right. -/
  segments : List Segment
deriving DecidableEq

/-- Why a source form is no template. -/
inductive TemplateError where
  /-- A placeholder holds a character that is no digit. -/
  | unexpected (c : Char)
  /-- The text ends inside a placeholder. -/
  | unterminated
  /-- A placeholder holds no index: there are no digits, or more than an index has. -/
  | noIndex
deriving DecidableEq

/-- What an error says. -/
def TemplateError.message : TemplateError → String
  | .unexpected c => "unexpected '" ++ c.toString ++ "' inside placeholder"
  | .unterminated => "unterminated placeholder"
  | .noIndex => "empty placeholder"

namespace Template

/-! ### Source form -/

/-- Indices are below this bound. -/
def indexBound : Nat := UInt64.size

/-- The index that digits write. -/
def index? (digits : List Char) : Option Nat :=
  if digits.isEmpty then none
  else
    let n := digits.foldl (fun n c => n * 10 + (c.toNat - '0'.toNat)) 0
    if n < indexBound then some n else none

/-- The text read so far as a segment, if there is any. The last character comes first. -/
def textSegment (read : List Char) : List Segment :=
  if read.isEmpty then [] else [.text (String.ofList read.reverse)]

mutual
/-- Read text up to a placeholder; `read` is the text so far, the last character first. -/
def parseText (read : List Char) : List Char → Except TemplateError (List Segment)
  | [] => .ok (textSegment read)
  | '{' :: cs => do return textSegment read ++ (← parseIndex [] cs)
  | c :: cs => parseText (c :: read) cs

/-- Read a placeholder; `digits` are those so far, the last first. -/
def parseIndex (digits : List Char) : List Char → Except TemplateError (List Segment)
  | [] => .error .unterminated
  | '}' :: cs =>
    match index? digits.reverse with
    | some n => do return .operand n :: (← parseText [] cs)
    | none => .error .noIndex
  | c :: cs => if c.isDigit then parseIndex (c :: digits) cs else .error (.unexpected c)
end

/-- Read the source form of a template. A closing brace outside a placeholder is text. -/
def parse (source : String) : Except TemplateError Template :=
  (parseText [] source.toList).map Template.mk

/-- The source form of a piece. -/
def segmentSource : Segment → String
  | .text s => s
  | .operand n => "\x7b" ++ toString n ++ "\x7d"

/-- The source form of a template. -/
def source (t : Template) : String := String.join (t.segments.map segmentSource)

/-! ### Placeholders -/

/-- The indices of the placeholders, left to right. -/
def operands (t : Template) : List Nat :=
  t.segments.filterMap fun
    | .operand n => some n
    | .text _ => none

/-- The greatest index of a placeholder. -/
def maxOperand? (t : Template) : Option Nat := t.operands.max?

/-- The piece ends with an opening parenthesis or a comma. -/
def opens : Option Segment → Bool
  | some (.text s) => s.toList.getLast? == some '(' || s.toList.getLast? == some ','
  | _ => false

/-- The piece starts with a closing parenthesis or a comma. -/
def closes : Option Segment → Bool
  | some (.text s) => s.toList.head? == some ')' || s.toList.head? == some ','
  | _ => false

/-- The pieces around a position enclose it. -/
def isEnclosed (t : Template) (position : Nat) : Bool :=
  opens (if position = 0 then none else t.segments[position - 1]?) &&
    closes t.segments[position + 1]?

/-- The pieces, each with whether its place is enclosed. -/
def slots (t : Template) : List (Segment × Bool) :=
  t.segments.mapIdx fun position segment => (segment, t.isEnclosed position)

@[simp] theorem map_fst_slots (t : Template) : t.slots.map (·.1) = t.segments := by
  apply List.ext_getElem <;> simp [slots]

end Template

end StoreQuery
