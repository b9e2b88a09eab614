import StoreQuery.Bindings
import StoreQuery.Expr
import StoreQuery.Grammar

/-!
# Clause texts

A `Pass` fixes how the expressions of one clause are written: the templates, the source whose
object is `this`, the labels for literals and the names no label may take. Writing an expression
adds a text and perhaps labels, and may fail after part of the text is written; a `Writer` does
one such step.

* `Pass.write` writes an expression and `Pass.writeList`, `Pass.writeSort` write lists;
* `Draft` is a clause in the making, to which the writers append.
-/

namespace StoreQuery

/-- Why an expression cannot be written. -/
inductive ClauseError where
  /-- An operator has another number of operands than it takes. -/
  | wrongArity (op : Operator) (given : Nat)
  /-- The right operand of a class test is no class name. -/
  | classNameRequired
  /-- An object is made outside a projection. -/
  | constructOutsideProjection
  /-- A literal in a clause without parameters. -/
  | literalWithoutLabel
  /-- A template asks for an operand that the operator does not take. -/
  | missingOperand (op : Operator) (index : Nat)
deriving DecidableEq

/-- What a step of writing adds to a clause, and the error that ended it. -/
structure Written where
  /-- The text. -/
  text : String
  /-- The bindings after the step. -/
  bindings : Bindings
  /-- The error, if there is one. The text before it stays. -/
  error? : Option ClauseError

/-- A step of writing, given the bindings before it. -/
abbrev Writer := Bindings → Written

namespace Writer

/-- Write a text as it is. -/
def text (s : String) : Writer := fun b => ⟨s, b, none⟩

/-- Write nothing and fail. -/
def fail (e : ClauseError) : Writer := fun b => ⟨"", b, some e⟩

/-- One step after another; an error ends both. -/
def andThen (first second : Writer) : Writer := fun b =>
  let w := first b
  match w.error? with
  | some _ => w
  | none =>
    let v := second w.bindings
    { v with text := w.text ++ v.text }

@[simp] theorem text_empty_andThen (w : Writer) : (text "").andThen w = w := by
  funext b
  simp [andThen, text]

@[simp] theorem andThen_text_empty (w : Writer) : w.andThen (text "") = w := by
  funext b
  rcases h : w b with ⟨s, c, _ | e⟩ <;> simp [andThen, text, h]

theorem andThen_assoc (u v w : Writer) : (u.andThen v).andThen w = u.andThen (v.andThen w) := by
  funext b
  rcases hu : u b with ⟨s, c, _ | e⟩
  · rcases hv : v c with ⟨t, d, _ | e⟩ <;> simp [andThen, hu, hv, String.append_assoc]
  · simp [andThen, hu]

/-- Several steps, left to right. -/
def all (writers : List Writer) : Writer := writers.foldr andThen (text "")

/-- Several steps with a text between each two. -/
def separated (separator : String) : List Writer → Writer
  | [] => text ""
  | [w] => w
  | w :: ws => w.andThen ((text separator).andThen (separated separator ws))

end Writer

/-- How the expressions of a clause are written. -/
structure Pass where
  /-- The templates. -/
  patterns : Patterns
  /-- The source whose object is `this`. -/
  candidate : Source
  /-- The labels for literals; without any, literals are refused. -/
  scheme? : Option LabelScheme
  /-- Names that no label may take. -/
  reserved : List String

namespace Pass

variable (p : Pass)

/-- A path as the clause writes it: the candidate is `this` and is not named before its
properties. -/
def pathText (q : Path) : String :=
  if q.root ≠ p.candidate.var then q.text
  else if q.isRoot then "this"
  else ".".intercalate q.segments

/-- Write a literal. Null stands for itself, any other value is given a label. -/
def literal (v : Value) : Writer := fun b =>
  if v.isNull then Writer.text "null" b
  else
    match p.scheme? with
    | none => Writer.fail .literalWithoutLabel b
    | some scheme =>
      let (label, b) := b.labelFor v scheme p.reserved
      Writer.text label b

/-- An operand: its tree and the way to write it. -/
abbrev Operand := Expr × Writer

/-- The operand needs parentheses at a placeholder that is not enclosed. -/
def needsParens (op : Operator) (index : Nat) : Expr → Bool
  | .apply child _ => op.wraps child index
  | _ => false

/-- Write an operand at a placeholder. -/
def operand (op : Operator) (index : Nat) (enclosed : Bool) (x : Operand) : Writer :=
  if !enclosed && needsParens op index x.1 then
    (Writer.text "(").andThen (x.2.andThen (Writer.text ")"))
  else x.2

/-- Write a piece of a template. -/
def slot (op : Operator) (operands : List Operand) : Segment × Bool → Writer
  | (.text s, _) => Writer.text s
  | (.operand index, enclosed) =>
    match operands[index]? with
    | some x => operand op index enclosed x
    | none => Writer.fail (.missingOperand op index)

/-- The right operand of a class test is a class name, and others are as they may. -/
def operandsFit (op : Operator) (operands : List Operand) : Bool :=
  match op, operands with
  | .instanceOf, [_, (.className _, _)] => true
  | .instanceOf, _ => false
  | _, _ => true

/-- Write an application by the template of its operator. -/
def application (op : Operator) (operands : List Operand) : Writer :=
  if operands.length ≠ op.arity then Writer.fail (.wrongArity op operands.length)
  else if operandsFit op operands then
    Writer.all ((p.patterns.template op).slots.map (slot op operands))
  else Writer.fail .classNameRequired

mutual
/-- Write an expression. -/
def write : Expr → Writer
  | .literal v => p.literal v
  | .path q => Writer.text (p.pathText q)
  | .className name => Writer.text name
  | .apply op xs => p.application op (operands xs)
  | .construct _ _ => Writer.fail .constructOutsideProjection

/-- The operands of an application. -/
def operands : List Expr → List Operand
  | [] => []
  | x :: xs => (x, write x) :: operands xs
end

@[simp] theorem operands_eq_map (xs : List Expr) :
    p.operands xs = xs.map fun x => (x, p.write x) := by
  induction xs with
  | nil => rfl
  | cons x xs ih => simp [operands, ih]

/-- Write expressions with a text between each two. -/
def writeList (separator : String) (xs : List Expr) : Writer :=
  Writer.separated separator (xs.map p.write)

/-- Write a sort key: the expression and the word for its direction. -/
def writeKey (key : SortKey) : Writer :=
  (p.write key.target).andThen (Writer.text (" " ++ key.direction.keyword))

/-- Write sort keys with commas between. -/
def writeSort (keys : List SortKey) : Writer := Writer.separated ", " (keys.map p.writeKey)

end Pass

/-! ### Clauses in the making -/

/-- A clause in the making. -/
structure Draft where
  /-- The text so far. -/
  text : String
  /-- The labels given so far. -/
  bindings : Bindings

namespace Draft

/-- Nothing written yet. -/
def empty : Draft := ⟨"", .empty⟩

/-- Append what a step writes, also when it fails. -/
def append (d : Draft) (w : Writer) : Draft × Option ClauseError :=
  let written := w d.bindings
  (⟨d.text ++ written.text, written.bindings⟩, written.error?)

end Draft

/-- The clause that a writer makes from nothing. -/
def Writer.clause (w : Writer) : Except ClauseError Draft :=
  match Draft.empty.append w with
  | (d, none) => .ok d
  | (_, some e) => .error e

/-- Write a list of expressions as one clause with no reserved names. -/
def Clause.ofList (patterns : Patterns) (candidate : Source) (xs : List Expr)
    (separator : String) (scheme : LabelScheme) : Except ClauseError Draft :=
  (Pass.writeList ⟨patterns, candidate, some scheme, []⟩ separator xs).clause

end StoreQuery
