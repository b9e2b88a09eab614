import StoreQuery.Operator

/-!
# Reading clause texts

A reader of the query language, for texts in which some places are atoms: of an atom it sees only
that one is there. The language has the usual operators. From the loosest to the tightest they are
`||`, then `&&`, then `==` and `!=`, then `<`, `<=`, `>`, `>=` and `instanceof`, then `+` and `-`,
then `*`, `/` and `%`, then `!` and `-` in front of an operand, and calls of methods and functions
last. Operators between operands group to the left, and parentheses and the operands of a call
start anew.

* `Reader.scan` cuts fixed text into tokens;
* `Reader.step` takes one token: an operator closes what binds at least as tightly before it
  (`Reader.settle`), and then waits for its last operand;
* `Reader.read` reads a whole text as a tree, if it is one.
-/

namespace StoreQuery

/-- A piece of a text. -/
inductive Piece (α : Type) where
  /-- Text of the language. -/
  | fixed (s : String)
  /-- An atom. -/
  | atom (a : α)

/-- The tree that a text is read as. -/
inductive Tree (α : Type) where
  /-- An atom of the text. -/
  | atom (a : α)
  /-- Null or a number. -/
  | word (s : String)
  /-- An operator with its operands; the receiver of a method comes first. -/
  | node (op : Operator) (operands : List (Tree α))

namespace Reader

/-! ### Tokens -/

/-- A token of the language. -/
inductive Token (α : Type) where
  /-- An atom. -/
  | atom (a : α)
  /-- A sign, a keyword or a number. -/
  | sign (s : String)
  /-- The name of a function, or of a method with the point before it, and an opening
  parenthesis. -/
  | call (name : String)

/-- Characters of names, keywords and numbers. -/
def isNameChar (c : Char) : Bool := c.isAlphanum || c == '.'

/-- Signs of two characters. -/
def doubles : List (Char × Char) :=
  [('&', '&'), ('|', '|'), ('=', '='), ('!', '='), ('<', '='), ('>', '=')]

/-- The token of a name that no parenthesis follows. The last character comes first. -/
def keyword (name : List Char) : List (Token α) :=
  if name.isEmpty then [] else [.sign (String.ofList name.reverse)]

/-- The tokens of fixed text; `name` is the name read so far, the last character first. -/
def scan (name : List Char) : List Char → List (Token α)
  | [] => keyword name
  | [c] =>
    if isNameChar c then keyword (c :: name)
    else if c == '(' && !name.isEmpty then [.call (String.ofList name.reverse)]
    else if c == ' ' then keyword name
    else keyword name ++ [.sign (String.ofList [c])]
  | c :: d :: cs =>
    if isNameChar c then scan (c :: name) (d :: cs)
    else if c == '(' && !name.isEmpty then .call (String.ofList name.reverse) :: scan [] (d :: cs)
    else if c == ' ' then keyword name ++ scan [] (d :: cs)
    else if (c, d) ∈ doubles then keyword name ++ .sign (String.ofList [c, d]) :: scan [] cs
    else keyword name ++ .sign (String.ofList [c]) :: scan [] (d :: cs)

/-- The tokens of a piece. No token reaches into the next piece. -/
def pieceTokens : Piece α → List (Token α)
  | .fixed s => scan [] s.toList
  | .atom a => [.atom a]

/-- The tokens of a text. -/
def tokens (ps : List (Piece α)) : List (Token α) := ps.flatMap pieceTokens

/-! ### Names -/

/-- The operator that stands between operands as a sign. -/
def binary? : String → Option Operator
  | "||" => some .or
  | "&&" => some .and
  | "==" => some .eq
  | "!=" => some .ne
  | "<" => some .lt
  | "<=" => some .le
  | ">" => some .gt
  | ">=" => some .ge
  | "instanceof" => some .instanceOf
  | "+" => some .add
  | "-" => some .sub
  | "*" => some .mul
  | "/" => some .div
  | "%" => some .rem
  | _ => none

/-- The operator that stands in front of an operand as a sign. -/
def unary? : String → Option Operator
  | "!" => some .not
  | "-" => some .neg
  | _ => none

/-- The operator that a method is. -/
def method? : String → Option Operator
  | ".startsWith" => some .startsWith
  | ".endsWith" => some .endsWith
  | ".matches" => some .matches
  | ".indexOf" => some .indexOf
  | ".toLowerCase" => some .lower
  | ".toUpperCase" => some .upper
  | ".length" => some .length
  | ".substring" => some .substring
  | ".charAt" => some .charAt
  | ".contains" => some .contains
  | ".isEmpty" => some .isEmpty
  | ".size" => some .size
  | ".containsKey" => some .containsKey
  | ".containsValue" => some .containsValue
  | ".get" => some .get
  | _ => none

/-- The operator that a function is. -/
def function? : String → Option Operator
  | "Math.abs" => some .abs
  | "Math.sqrt" => some .sqrt
  | "count" => some .count
  | "sum" => some .sum
  | "avg" => some .avg
  | "min" => some .min
  | "max" => some .max
  | _ => none

/-- Words that are operands. -/
def isOperandWord (s : String) : Bool := s == "null" || s.toList.all Char.isDigit

/-- How tightly an operator binds; the greater the tighter. -/
def level : Operator → Nat
  | .or => 1
  | .and => 2
  | .eq | .ne => 3
  | .lt | .le | .gt | .ge | .instanceOf => 4
  | .add | .sub => 5
  | .mul | .div | .rem => 6
  | .not | .neg => 7
  | _ => 8

/-! ### Steps -/

/-- What is open while a text is read. -/
inductive Frame (α : Type) where
  /-- An operator that waits for its last operand, with those before it. -/
  | waiting (op : Operator) (left : List (Tree α))
  /-- A parenthesis. -/
  | group
  /-- A call, with the receiver if it is of a method and the operands read so far. -/
  | call (op : Operator) (receiver operands : List (Tree α))

/-- What is open, the innermost first, and the operand read last, unless one is expected. -/
structure State (α : Type) where
  /-- What is open. -/
  frames : List (Frame α)
  /-- The operand read last. -/
  last? : Option (Tree α)

/-- Give an operand to the operators that wait for one and bind at level `n` or tighter. -/
def settle (n : Nat) : List (Frame α) → Tree α → List (Frame α) × Tree α
  | .waiting op left :: fs, t =>
    if n ≤ level op then settle n fs (.node op (left ++ [t])) else (.waiting op left :: fs, t)
  | fs, t => (fs, t)

/-- A sign where an operand is expected. -/
def signBefore (fs : List (Frame α)) (s : String) : Option (State α) :=
  match unary? s with
  | some op => some ⟨.waiting op [] :: fs, none⟩
  | none =>
    if s = "(" then some ⟨.group :: fs, none⟩
    else if isOperandWord s then some ⟨fs, some (.word s)⟩
    else
      match s, fs with
      | ")", .call op [receiver] [] :: fs => some ⟨fs, some (.node op [receiver])⟩
      | "distinct", .call .count [] [] :: fs => some ⟨.call .countDistinct [] [] :: fs, none⟩
      | _, _ => none

/-- A sign after an operand. -/
def signAfter (fs : List (Frame α)) (t : Tree α) (s : String) : Option (State α) :=
  match binary? s with
  | some op =>
    let (fs, t) := settle (level op) fs t
    some ⟨.waiting op [t] :: fs, none⟩
  | none =>
    match s, settle 0 fs t with
    | ")", (.group :: fs, t) => some ⟨fs, some t⟩
    | ")", (.call op receiver ts :: fs, t) => some ⟨fs, some (.node op (receiver ++ ts ++ [t]))⟩
    | ",", (.call op receiver ts :: fs, t) => some ⟨.call op receiver (ts ++ [t]) :: fs, none⟩
    | _, _ => none

/-- Take a token. -/
def step : State α → Token α → Option (State α)
  | ⟨fs, none⟩, .atom a => some ⟨fs, some (.atom a)⟩
  | ⟨fs, none⟩, .sign s => signBefore fs s
  | ⟨fs, none⟩, .call name => (function? name).map fun op => ⟨.call op [] [] :: fs, none⟩
  | ⟨_, some _⟩, .atom _ => none
  | ⟨fs, some t⟩, .sign s => signAfter fs t s
  | ⟨fs, some t⟩, .call name => (method? name).map fun op => ⟨.call op [t] [] :: fs, none⟩

/-- Take tokens one after another. -/
def run (s : State α) (ts : List (Token α)) : Option (State α) := ts.foldlM step s

/-- The tree, once nothing is open. -/
def result? : State α → Option (Tree α)
  | ⟨fs, some t⟩ =>
    match settle 0 fs t with
    | ([], t) => some t
    | _ => none
  | _ => none

/-- Read a text as a tree. -/
def read (ps : List (Piece α)) : Option (Tree α) := (run ⟨[], none⟩ (tokens ps)).bind result?

end Reader

end StoreQuery
