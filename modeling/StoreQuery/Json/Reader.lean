import StoreQuery.Json
import StoreQuery.Text

/-!
# Reading JSON texts

`Json.ofText?` reads a JSON text. A text that is not JSON has no tree; a number or a character
that the text writes correctly but that does not exist becomes an unreadable node.

Numbers that are no 64-bit integers are read in three steps, each of which rounds: the digits that
fit 64 bits give a double, the power of ten gives another, and their product or quotient is the
number (`Json.scaled`). The result may differ from the nearest double in its last bit.
-/

namespace StoreQuery.Json

/-! ### Numbers -/

/-- The largest 64-bit natural. -/
def wordMax : Nat := UInt64.size - 1

/-- The value of a decimal digit. -/
def digitValue (c : Char) : Nat := c.toNat - '0'.toNat

/-- Append digits to a significand while the result fits 64 bits; the second part is the number
of digits that were appended. -/
def appendDigits (significand : Nat) : List Char → Nat × Nat
  | [] => (significand, 0)
  | c :: cs =>
    let next := significand * 10 + digitValue c
    if next ≤ wordMax then
      let (s, n) := appendDigits next cs
      (s, n + 1)
    else (significand, 0)

/-- The double nearest to a power of ten. -/
def powerOfTen (n : Nat) : Option Binary64.Magnitude := do
  (← Binary64.ofNat (Nat.pow 10 n)).magnitude?

/-- A significand times a power of ten; `none` when it is too large. Of a 64-bit significand
nothing is left below `10 ^ -616`. -/
def scaled (significand : Nat) (exp : Int) : Option Binary64 := do
  let f ← (← Binary64.ofNat significand).magnitude?
  if significand = 0 then some .zero
  else if 308 < exp then none
  else if 0 ≤ exp then Binary64.mul f (← powerOfTen exp.toNat)
  else if -308 ≤ exp then Binary64.div f (← powerOfTen (-exp).toNat)
  else if -616 ≤ exp then
    let g ← (← Binary64.div f (← powerOfTen 308)).magnitude?
    Binary64.div g (← powerOfTen (-exp - 308).toNat)
  else some .zero

/-- The parts of a number as written. -/
structure NumberText where
  /-- A minus sign stands in front. -/
  negative : Bool
  /-- The digits before the point. -/
  whole : List Char
  /-- The digits after the point, if there is one. -/
  fraction : Option (List Char)
  /-- The exponent, if there is one. -/
  exp : Option Int

/-- The double that a number stands for. -/
def NumberText.double (t : NumberText) : Json :=
  let (significand, taken) := appendDigits 0 t.whole
  let dropped := t.whole.length - taken
  let (significand, places) := appendDigits significand (t.fraction.getD [])
  match scaled significand ((dropped : Int) - places + t.exp.getD 0) with
  | some x => .double (if t.negative then x.negate else x)
  | none => .unreadable

/-- The number that a text stands for: an integer if it is written as one and fits 64 bits. The
integer zero has no sign, so its negative is a double. -/
def NumberText.value (t : NumberText) : Json :=
  if t.fraction.isSome || t.exp.isSome then t.double
  else
    let n := t.whole.foldl (fun n c => n * 10 + digitValue c) 0
    if t.negative then
      if n = 0 || 1 <<< 63 < n then t.double else .int (-n)
    else if n ≤ wordMax then .int n
    else t.double

/-- Read digits, at least one. -/
def readDigits (cs : List Char) : Option (List Char × List Char) :=
  match cs.span Char.isDigit with
  | ([], _) => none
  | read => some read

/-- Read the part of a number after the point. -/
def readFraction : List Char → Option (Option (List Char) × List Char)
  | '.' :: cs => do
    let (digits, rest) ← readDigits cs
    some (some digits, rest)
  | cs => some (none, cs)

/-- Read the digits of an exponent after its sign. -/
def readExponentDigits (negative : Bool) (cs : List Char) : Option (Option Int × List Char) := do
  let (digits, rest) ← readDigits cs
  let n := digits.foldl (fun n c => n * 10 + digitValue c) 0
  some (some (if negative then -n else n), rest)

/-- Read the exponent of a number. -/
def readExponent : List Char → Option (Option Int × List Char)
  | c :: cs =>
    if c = 'e' || c = 'E' then
      match cs with
      | '+' :: cs => readExponentDigits false cs
      | '-' :: cs => readExponentDigits true cs
      | cs => readExponentDigits false cs
    else some (none, c :: cs)
  | [] => some (none, [])

/-- Read a number. A leading zero stands alone before the point. -/
def readNumber (cs : List Char) : Option (Json × List Char) := do
  let (negative, cs) := match cs with
    | '-' :: cs => (true, cs)
    | cs => (false, cs)
  let (whole, cs) ← readDigits cs
  if whole.head? = some '0' ∧ 1 < whole.length then none
  let (fraction, cs) ← readFraction cs
  let (exp, cs) ← readExponent cs
  some ((NumberText.mk negative whole fraction exp).value, cs)

/-! ### Texts -/

/-- A piece of a text: a character, or the sixteen bits of an escape. -/
inductive Piece where
  /-- A character that stands for itself or has a short escape. -/
  | char (c : Char)
  /-- A four-digit escape. -/
  | unit (n : Nat)

/-- The value of four hexadecimal digits. -/
def hexUnit? (a b c d : Char) : Option Nat := do
  some ((((← Text.hexValue? a) * 16 + (← Text.hexValue? b)) * 16 + (← Text.hexValue? c)) * 16 +
    (← Text.hexValue? d))

/-- The character of a short escape. -/
def shortEscape? : Char → Option Char
  | '"' => some '"'
  | '\\' => some '\\'
  | '/' => some '/'
  | 'b' => some '\x08'
  | 'f' => some '\x0c'
  | 'n' => some '\n'
  | 'r' => some '\r'
  | 't' => some '\t'
  | _ => none

/-- Read the pieces of a text up to the closing quote. -/
def readPieces : List Char → Option (List Piece × List Char)
  | [] => none
  | '"' :: cs => some ([], cs)
  | '\\' :: 'u' :: a :: b :: c :: d :: cs => do
    let n ← hexUnit? a b c d
    let (pieces, rest) ← readPieces cs
    some (.unit n :: pieces, rest)
  | '\\' :: c :: cs => do
    let e ← shortEscape? c
    let (pieces, rest) ← readPieces cs
    some (.char e :: pieces, rest)
  | c :: cs => do
    if c = '\\' || c.toNat < 0x20 then none
    let (pieces, rest) ← readPieces cs
    some (.char c :: pieces, rest)

/-- The characters that pieces stand for. Two escapes make one character when the first is a high
and the second a low surrogate; other surrogates stand for none. -/
def joinPieces : List Piece → Option (List Char)
  | [] => some []
  | .char c :: rest => (joinPieces rest).map (c :: ·)
  | .unit n :: rest =>
    if 0xD800 ≤ n && n < 0xDC00 then
      match rest with
      | .unit m :: rest =>
        if 0xDC00 ≤ m && m < 0xE000 then
          (joinPieces rest).map (Char.ofNat (0x10000 + (n - 0xD800) * 0x400 + (m - 0xDC00)) :: ·)
        else none
      | _ => none
    else if 0xDC00 ≤ n && n < 0xE000 then none
    else (joinPieces rest).map (Char.ofNat n :: ·)

/-- Read a text after its opening quote; a text with a lone surrogate has no characters. -/
def readText (cs : List Char) : Option (Option String × List Char) := do
  let (pieces, rest) ← readPieces cs
  some ((joinPieces pieces).map String.ofList, rest)

/-! ### Trees -/

/-- Drop blanks and line ends. -/
def skipBlank (cs : List Char) : List Char :=
  cs.dropWhile fun c => c == ' ' || c == '\n' || c == '\t' || c == '\r'

/-- Read a fixed word. -/
def readWord (word : String) (value : Json) (cs : List Char) : Option (Json × List Char) :=
  if word.toList.isPrefixOf cs then some (value, cs.drop word.length) else none

/-- The object with the given members; a member without a name has no place in one. -/
def ofMembers (members : List (Option String × Json)) : Json :=
  match members.mapM fun m => m.1.map (·, m.2) with
  | some members => .object members
  | none => .unreadable

mutual
/-- Read a value. Each step reads a character at least, so that the number of characters bounds
the number of steps. -/
def readValue (steps : Nat) (cs : List Char) : Option (Json × List Char) :=
  match steps with
  | 0 => none
  | steps + 1 =>
    match skipBlank cs with
    | '{' :: cs =>
      match skipBlank cs with
      | '}' :: cs => some (.object [], cs)
      | cs => do
        let (members, cs) ← readMembers steps cs
        some (ofMembers members, cs)
    | '[' :: cs =>
      match skipBlank cs with
      | ']' :: cs => some (.array [], cs)
      | cs => do
        let (items, cs) ← readItems steps cs
        some (.array items, cs)
    | '"' :: cs => do
      let (text, cs) ← readText cs
      some (match text with | some s => .string s | none => .unreadable, cs)
    | 't' :: cs => readWord "rue" (.bool true) cs
    | 'f' :: cs => readWord "alse" (.bool false) cs
    | 'n' :: cs => readWord "ull" .null cs
    | cs => readNumber cs

/-- Read the items of an array up to its closing bracket. -/
def readItems (steps : Nat) (cs : List Char) : Option (List Json × List Char) :=
  match steps with
  | 0 => none
  | steps + 1 => do
    let (item, cs) ← readValue steps cs
    match skipBlank cs with
    | ',' :: cs =>
      let (items, cs) ← readItems steps cs
      some (item :: items, cs)
    | ']' :: cs => some ([item], cs)
    | _ => none

/-- Read the members of an object up to its closing brace. -/
def readMembers (steps : Nat) (cs : List Char) :
    Option (List (Option String × Json) × List Char) :=
  match steps with
  | 0 => none
  | steps + 1 =>
    match skipBlank cs with
    | '"' :: cs => do
      let (name, cs) ← readText cs
      match skipBlank cs with
      | ':' :: cs =>
        let (value, cs) ← readValue steps cs
        match skipBlank cs with
        | ',' :: cs =>
          let (members, cs) ← readMembers steps cs
          some ((name, value) :: members, cs)
        | '}' :: cs => some ([(name, value)], cs)
        | _ => none
      | _ => none
    | _ => none
end

/-- The tree of a JSON text. -/
def ofText? (text : String) : Option Json := do
  let cs := text.toList
  let (value, rest) ← readValue (cs.length + 1) cs
  if skipBlank rest = [] then some value else none

end StoreQuery.Json
