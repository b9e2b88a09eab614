import StoreQuery.Operator
import StoreQuery.Template

/-!
# The grammar of query texts

Each operator has a template and two strengths: how tightly the text it writes holds together, and
how tightly an operand must hold together to stand in it without parentheses.

* `Operator.template` is the template an operator has by default;
* `Patterns` is a table of templates, one for each operator;
* `Patterns.override` replaces one template by a source text. The strengths stay.
-/

namespace StoreQuery

/-- How tightly a text holds together; the greater the tighter. -/
abbrev Strength := Nat

namespace Strength

/-- Disjunctions. -/
def disjunction : Strength := 1

/-- Conjunctions. -/
def conjunction : Strength := 2

/-- Tests for equality. -/
def equality : Strength := 4

/-- Comparisons. -/
def relation : Strength := 5

/-- Sums and differences. -/
def additive : Strength := 6

/-- Products and quotients. -/
def multiplicative : Strength := 7

/-- Operators in front of their operand. -/
def unary : Strength := 8

/-- Calls. -/
def call : Strength := 10

end Strength

namespace Template

/-- Two operands with text between them. -/
def joined (between : String) : Template := ⟨[.operand 0, .text between, .operand 1]⟩

/-- One operand after a text. -/
def after (before : String) : Template := ⟨[.text before, .operand 0]⟩

/-- One operand before a text. -/
def before (after : String) : Template := ⟨[.operand 0, .text after]⟩

/-- A method of the first operand that takes the second. -/
def method (name : String) : Template :=
  ⟨[.operand 0, .text ("." ++ name ++ "("), .operand 1, .text ")"]⟩

/-- A function of one operand; `opening` is the text up to it. -/
def function (opening : String) : Template := ⟨[.text opening, .operand 0, .text ")"]⟩

end Template

namespace Operator

/-- The template of an operator unless it is replaced. -/
def template : Operator → Template
  | .and => .joined " && "
  | .or => .joined " || "
  | .not => .after "!"
  | .eq => .joined " == "
  | .ne => .joined " != "
  | .lt => .joined " < "
  | .le => .joined " <= "
  | .gt => .joined " > "
  | .ge => .joined " >= "
  | .between =>
    ⟨[.operand 0, .text " >= ", .operand 1, .text " && ", .operand 0, .text " <= ", .operand 2]⟩
  | .isNull => .before " == null"
  | .isNotNull => .before " != null"
  | .add => .joined " + "
  | .sub => .joined " - "
  | .mul => .joined " * "
  | .div => .joined " / "
  | .rem => .joined " % "
  | .neg => .after "-"
  | .startsWith => .method "startsWith"
  | .endsWith => .method "endsWith"
  | .matches => .method "matches"
  | .stringContains => ⟨[.operand 0, .text ".indexOf(", .operand 1, .text ") > -1"]⟩
  | .indexOf => .method "indexOf"
  | .lower => .before ".toLowerCase()"
  | .upper => .before ".toUpperCase()"
  | .length => .before ".length()"
  | .substring =>
    ⟨[.operand 0, .text ".substring(", .operand 1, .text ",", .operand 2, .text ")"]⟩
  | .charAt => .method "charAt"
  | .contains => .method "contains"
  | .isEmpty => .before ".isEmpty()"
  | .isNotEmpty => ⟨[.text "!", .operand 0, .text ".isEmpty()"]⟩
  | .size => .before ".size()"
  | .containsKey => .method "containsKey"
  | .containsValue => .method "containsValue"
  | .get => .method "get"
  | .abs => .function "Math.abs("
  | .sqrt => .function "Math.sqrt("
  | .count => .function "count("
  | .countDistinct => .function "count(distinct "
  | .sum => .function "sum("
  | .avg => .function "avg("
  | .min => .function "min("
  | .max => .function "max("
  | .instanceOf => .joined " instanceof "

/-- How tightly the text of an application holds together. -/
def strength : Operator → Strength
  | .or => .disjunction
  | .and | .between => .conjunction
  | .eq | .ne | .isNull | .isNotNull => .equality
  | .lt | .le | .gt | .ge | .stringContains | .instanceOf => .relation
  | .add | .sub => .additive
  | .mul | .div | .rem => .multiplicative
  | .not | .neg | .isNotEmpty => .unary
  | _ => .call

/-- How tightly an operand must hold together to stand without parentheses. It is the strength of
the application itself, unless the template writes more than one operator. -/
def operandStrength : Operator → Strength
  | .between => .relation
  | .stringContains | .isNotEmpty => .call
  | op => op.strength

/-- The application of `child` needs parentheses as the operand of `parent` at `index`. Between
equals only the first operand does without, or any operand of one operator whose operands may be
regrouped. -/
def wraps (parent child : Operator) (index : Nat) : Bool :=
  if child.strength = parent.operandStrength then
    index ≠ 0 && !(child = parent && parent.isAssociative)
  else child.strength < parent.operandStrength

end Operator

/-- Why a text cannot replace a template. -/
inductive OverrideError where
  /-- The text is no template. -/
  | template (e : TemplateError)
  /-- A placeholder asks for an operand that the operator does not take. -/
  | beyondArity (op : Operator) (index : Nat)
deriving DecidableEq

/-- What an error says. -/
def OverrideError.message : OverrideError → String
  | .template e => e.message
  | .beyondArity op index =>
    "template for '" ++ op.name ++ "' references \x7b" ++ toString index ++
      "\x7d but the operator takes " ++ toString op.arity ++ " operand(s)"

/-- The templates of all operators. -/
structure Patterns where
  /-- The template of an operator. -/
  template : Operator → Template

namespace Patterns

/-- The templates operators have by default. -/
def default : Patterns := ⟨Operator.template⟩

/-- Replace the template of one operator. -/
def set (p : Patterns) (op : Operator) (t : Template) : Patterns :=
  ⟨fun o => if o = op then t else p.template o⟩

@[simp] theorem template_set_self (p : Patterns) (op : Operator) (t : Template) :
    (p.set op t).template op = t := by simp [set]

theorem template_set_of_ne (p : Patterns) {op o : Operator} (t : Template) (h : o ≠ op) :
    (p.set op t).template o = p.template o := by simp [set, h]

/-- Replace several templates, one after another. -/
def setAll (p : Patterns) (replaced : List (Operator × Template)) : Patterns :=
  replaced.foldl (fun p r => p.set r.1 r.2) p

/-- The template a source text gives an operator. -/
def check (op : Operator) (source : String) : Except OverrideError Template :=
  match Template.parse source with
  | .error e => .error (.template e)
  | .ok t =>
    match t.maxOperand? with
    | some index => if op.arity ≤ index then .error (.beyondArity op index) else .ok t
    | none => .ok t

/-- Replace the template of one operator by a source text. -/
def override (p : Patterns) (op : Operator) (source : String) : Except OverrideError Patterns :=
  (check op source).map (p.set op)

end Patterns

end StoreQuery
