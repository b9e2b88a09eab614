import StoreQuery.Proofs.Clause.Leaves
import StoreQuery.Proofs.Config.Table

/-!
# What is looked up while writing

Writing an application takes three things for granted: the operators have an entry in the table,
there is an operand wherever the template asks for one, and a class test has a second operand. Here
they are looked up without a fallback, and a look-up that finds nothing ends all.

* `PartialWriter` : a step of writing that may find nothing;
* `Keyed.visit`, `Keyed.visitList`, `Keyed.visitSort` : a walk that looks everything up;
* `Writer.FindsOperands` : a step of writing that never lacks an operand;
* `Keyed.lookups_succeed` : **with the table of any settings that can be had, every look-up
  succeeds, for every expression.**
-/

namespace StoreQuery

/-! ### Steps that may find nothing -/

/-- A look-up that finds nothing. -/
inductive Fault where
  /-- The table has no entry for the operator. -/
  | noPattern (op : Operator)
  /-- The operator is given no operand at the index. -/
  | noOperand (op : Operator) (index : Nat)

/-- A step of writing that may find nothing. -/
abbrev PartialWriter := Bindings → Except Fault Written

/-- A step that looks nothing up. -/
def Writer.total (w : Writer) : PartialWriter := fun b => .ok (w b)

namespace PartialWriter

/-- Look something up and go on with it. -/
def find {α : Type} (found : Except Fault α) (next : α → PartialWriter) : PartialWriter := fun b =>
  match found with
  | .ok a => next a b
  | .error fault => .error fault

/-- One step after another; an error ends both. -/
def andThen (first second : PartialWriter) : PartialWriter := fun b => do
  let w ← first b
  match w.error? with
  | some _ => return w
  | none =>
    let v ← second w.bindings
    return { v with text := w.text ++ v.text }

/-- Several steps, left to right. -/
def all (writers : List PartialWriter) : PartialWriter :=
  writers.foldr andThen (Writer.text "").total

/-- Several steps with a text between each two. -/
def separated (separator : String) : List PartialWriter → PartialWriter
  | [] => (Writer.text "").total
  | [w] => w
  | w :: ws => w.andThen ((Writer.text separator).total.andThen (separated separator ws))

@[simp] theorem andThen_total (u v : Writer) : u.total.andThen v.total = (u.andThen v).total := by
  funext b
  rcases h : u b with ⟨s, c, _ | e⟩ <;> simp [andThen, Writer.total, Writer.andThen, h] <;> rfl

@[simp] theorem all_total (ws : List Writer) :
    all (ws.map Writer.total) = (Writer.all ws).total := by
  induction ws with
  | nil => rfl
  | cons w ws ih =>
    rw [List.map_cons, all, List.foldr_cons, ← all, ih, andThen_total]
    rfl

@[simp] theorem separated_total (separator : String) (ws : List Writer) :
    separated separator (ws.map Writer.total) = (Writer.separated separator ws).total := by
  fun_induction Writer.separated separator ws with
  | case1 => rfl
  | case2 w => rfl
  | case3 w ws hws ih =>
    obtain _ | ⟨v, ws⟩ := ws
    · exact absurd rfl hws
    · rw [List.map_cons, List.map_cons, separated, ← List.map_cons, ih, andThen_total,
        andThen_total]
      exact nofun

end PartialWriter

/-! ### Operands that are there -/

/-- The step never ends for the lack of an operand that a template asks for. -/
def Writer.FindsOperands (w : Writer) : Prop :=
  ∀ b op index, (w b).error? ≠ some (.missingOperand op index)

namespace Writer.FindsOperands

theorem text (s : String) : (Writer.text s).FindsOperands := nofun

theorem fail {e : ClauseError} (h : ∀ op index, e ≠ .missingOperand op index) :
    (Writer.fail e).FindsOperands := by
  intro b op index heq
  exact h op index (Option.some.inj heq)

theorem andThen {u v : Writer} (hu : u.FindsOperands) (hv : v.FindsOperands) :
    (u.andThen v).FindsOperands := by
  intro b op index
  have first := hu b op index
  rcases h : u b with ⟨s, c, _ | e⟩
  · simpa only [Writer.andThen, h] using hv c op index
  · simpa only [Writer.andThen, h] using first

theorem all {ws : List Writer} (h : ∀ w ∈ ws, w.FindsOperands) : (Writer.all ws).FindsOperands := by
  induction ws with
  | nil => exact text ""
  | cons w ws ih =>
    obtain ⟨hw, hws⟩ := List.forall_mem_cons.1 h
    exact hw.andThen (ih hws)

theorem separated {separator : String} {ws : List Writer} (h : ∀ w ∈ ws, w.FindsOperands) :
    (Writer.separated separator ws).FindsOperands := by
  fun_induction Writer.separated separator ws with
  | case1 => exact text ""
  | case2 w => exact h w (List.mem_singleton_self w)
  | case3 w ws _ ih =>
    obtain ⟨hw, hws⟩ := List.forall_mem_cons.1 h
    exact hw.andThen ((text separator).andThen (ih hws))

end Writer.FindsOperands

namespace Pass

variable {p : Pass}

theorem findsOperands_literal (v : Value) : (p.literal v).FindsOperands := by
  intro b op index
  unfold literal
  cases v.isNull <;> cases p.scheme? <;> exact nofun

theorem findsOperands_operand {op : Operator} {index : Nat} {enclosed : Bool} {x : Operand}
    (h : x.2.FindsOperands) : (operand op index enclosed x).FindsOperands := by
  unfold operand
  split
  · exact (Writer.FindsOperands.text "(").andThen (h.andThen (.text ")"))
  · exact h

/-- Templates that ask only for what their operators take lack no operand. -/
theorem findsOperands_write (hP : p.patterns.WithinArity) (x : Expr) :
    (p.write x).FindsOperands := by
  induction x with
  | literal v => exact findsOperands_literal v
  | path q => exact .text _
  | className name => exact .text name
  | construct => exact .fail (by simp)
  | apply op xs ih =>
    rw [write, operands_eq_map, application, List.length_map]
    split
    · exact .fail (by simp)
    · rename_i arity
      split
      · refine .all ?_
        rw [List.forall_mem_map]
        rintro ⟨s | index, enclosed⟩ hs
        · exact .text s
        · -- The template asks for operands below the arity, and there are that many.
          have hindex := hP op index (Patterns.mem_operands_of_mem_slots hs)
          rw [← not_not.1 arity] at hindex
          simp only [slot, List.getElem?_map, List.getElem?_eq_getElem hindex, Option.map_some]
          exact findsOperands_operand (ih _ (List.getElem_mem hindex))
      · exact .fail (by simp)

theorem findsOperands_writeList (hP : p.patterns.WithinArity) (separator : String)
    (xs : List Expr) : (p.writeList separator xs).FindsOperands := by
  refine .separated ?_
  rw [List.forall_mem_map]
  exact fun x _ => findsOperands_write hP x

theorem findsOperands_writeSort (hP : p.patterns.WithinArity) (keys : List SortKey) :
    (p.writeSort keys).FindsOperands := by
  refine .separated ?_
  rw [List.forall_mem_map]
  exact fun key _ => (findsOperands_write hP key.target).andThen (.text _)

end Pass

/-! ### A walk that looks everything up -/

namespace Keyed

open PartialWriter

/-- An operand: its tree and the way to write it. -/
abbrev Operand := Expr × PartialWriter

variable (table : Std.HashMap Operator Pattern)

/-- The entry of an operator. -/
def pattern (op : Operator) : Except Fault Pattern :=
  match table[op]? with
  | some found => .ok found
  | none => .error (.noPattern op)

/-- The operand needs parentheses at a placeholder that is not enclosed. If it is an application,
its operator is looked up. -/
def needsParens (op : Operator) (parent : Pattern) (index : Nat) : Expr → Except Fault Bool
  | .apply child _ =>
    (pattern table child).map fun found =>
      if found.strength ≠ parent.operandStrength then found.strength < parent.operandStrength
      else 0 < index && !(child = op && op.isAssociative)
  | _ => .ok false

/-- Write an operand at a placeholder. -/
def operand (op : Operator) (parent : Pattern) (index : Nat) (enclosed : Bool) (x : Operand) :
    PartialWriter :=
  find (if enclosed then .ok false else needsParens table op parent index x.1) fun wrapped =>
    if wrapped then (Writer.text "(").total.andThen (x.2.andThen (Writer.text ")").total)
    else x.2

/-- Write a piece of a template. The operand that it asks for is looked up. -/
def slot (op : Operator) (parent : Pattern) (operands : List Operand) :
    Segment × Bool → PartialWriter
  | (.text s, _) => (Writer.text s).total
  | (.operand index, enclosed) =>
    find (match operands[index]? with
      | some x => .ok x
      | none => .error (.noOperand op index))
      (operand table op parent index enclosed)

/-- Write the pieces of an operator's template, which is looked up. -/
def pieces (op : Operator) (operands : List Operand) : PartialWriter :=
  find (pattern table op) fun parent =>
    all (parent.template.slots.map (slot table op parent operands))

/-- The expression is the name of a class. -/
def isClassName : Expr → Bool
  | .className _ => true
  | _ => false

/-- Write an application. A class test looks up its second operand. -/
def application (op : Operator) (operands : List Operand) : PartialWriter :=
  if operands.length ≠ op.arity then (Writer.fail (.wrongArity op operands.length)).total
  else if op = .instanceOf then
    find (match operands[1]? with
      | some x => .ok x
      | none => .error (.noOperand op 1))
      fun x =>
        if isClassName x.1 then pieces table op operands
        else (Writer.fail .classNameRequired).total
  else pieces table op operands

variable (p : Pass)

mutual
/-- Write an expression. -/
def visit : Expr → PartialWriter
  | .literal v => (p.literal v).total
  | .path q => (Writer.text (p.pathText q)).total
  | .className name => (Writer.text name).total
  | .apply op xs => application table op (visitAll xs)
  | .construct _ _ => (Writer.fail .constructOutsideProjection).total

/-- The operands of an application. -/
def visitAll : List Expr → List Operand
  | [] => []
  | x :: xs => (x, visit x) :: visitAll xs
end

@[simp] theorem visitAll_eq_map (xs : List Expr) :
    visitAll table p xs = xs.map fun x => (x, visit table p x) := by
  induction xs with
  | nil => rfl
  | cons x xs ih => simp [visitAll, ih]

/-- Write expressions with a text between each two. -/
def visitList (separator : String) (xs : List Expr) : PartialWriter :=
  separated separator (xs.map (visit table p))

/-- Write a sort key: the expression and the word for its direction. -/
def visitKey (key : SortKey) : PartialWriter :=
  (visit table p key.target).andThen (Writer.text (" " ++ key.direction.keyword)).total

/-- Write sort keys with commas between. -/
def visitSort (keys : List SortKey) : PartialWriter :=
  separated ", " (keys.map (visitKey table p))

/-! ### Nothing is missed -/

section

variable {table} {P : Patterns}
  (found : ∀ op : Operator, table[op]? = some (op.pattern (P.template op)))
include found

theorem pattern_eq (op : Operator) : pattern table op = .ok (op.pattern (P.template op)) := by
  rw [pattern, found op]

theorem needsParens_eq (op : Operator) (t : Template) (index : Nat) (x : Expr) :
    needsParens table op (op.pattern t) index x = .ok (Pass.needsParens op index x) := by
  cases x with
  | apply child xs =>
    rw [needsParens, pattern_eq found, Pass.needsParens, Operator.wraps]
    simp only [Except.map, Operator.strength_pattern, Operator.operandStrength_pattern]
    by_cases h : child.strength = op.operandStrength
    · simp [h, Nat.pos_iff_ne_zero]
    · simp only [ne_eq, h, not_false_eq_true, if_true, if_false]
      rfl
  | _ => rfl

theorem operand_total (op : Operator) (t : Template) (index : Nat) (enclosed : Bool) (x : Expr)
    (w : Writer) : operand table op (op.pattern t) index enclosed (x, w.total) =
      (Pass.operand op index enclosed (x, w)).total := by
  rw [operand, Pass.operand, needsParens_eq found, andThen_total, andThen_total]
  cases enclosed with
  | true => rfl
  | false => cases Pass.needsParens op index x <;> rfl

/-- An operand that is asked for is there. -/
theorem slot_total {op : Operator} {t : Template} {operands : List (Expr × Writer)}
    {s : Segment × Bool} (h : ∀ index, s.1 = .operand index → index < operands.length) :
    slot table op (op.pattern t) (operands.map fun x => (x.1, x.2.total)) s =
      (Pass.slot op operands s).total := by
  obtain ⟨s | index, enclosed⟩ := s
  · rfl
  · have hindex := h index rfl
    simp only [slot, Pass.slot, List.getElem?_map, List.getElem?_eq_getElem hindex,
      Option.map_some]
    exact operand_total found op t index enclosed _ _

variable (hP : P.WithinArity)
include hP

/-- The operator has an entry, and its template asks only for operands that are there. -/
theorem pieces_total {op : Operator} {operands : List (Expr × Writer)}
    (arity : operands.length = op.arity) :
    pieces table op (operands.map fun x => (x.1, x.2.total)) =
      (Writer.all ((P.template op).slots.map (Pass.slot op operands))).total := by
  have slots : (P.template op).slots.map (slot table op (op.pattern (P.template op))
      (operands.map fun x => (x.1, x.2.total))) =
      ((P.template op).slots.map (Pass.slot op operands)).map Writer.total := by
    rw [List.map_map]
    refine List.map_congr_left ?_
    rintro ⟨segment, enclosed⟩ hs
    refine slot_total found ?_
    rintro index rfl
    rw [arity]
    exact hP op index (Patterns.mem_operands_of_mem_slots hs)
  rw [pieces, pattern_eq found]
  exact (congrArg all slots).trans (all_total _)

/-- A class test is checked to have two operands before the second one is looked at. -/
theorem application_total {p : Pass} (hp : p.patterns = P) (op : Operator)
    (operands : List (Expr × Writer)) :
    application table op (operands.map fun x => (x.1, x.2.total)) =
      (p.application op operands).total := by
  unfold application Pass.application
  rw [List.length_map]
  by_cases arity : operands.length = op.arity
  · rw [if_neg (not_not_intro arity), if_neg (not_not_intro arity), pieces_total found hP arity, hp]
    by_cases hop : op = .instanceOf
    · subst hop
      obtain ⟨x, y, rfl⟩ := List.length_eq_two.1 arity
      obtain ⟨y, w⟩ := y
      cases y <;> rfl
    · rw [if_neg hop]
      have fits : Pass.operandsFit op operands = true := by
        cases op <;> first | rfl | exact absurd rfl hop
      rw [fits]
      rfl
  · rw [if_pos arity, if_pos arity]

/-- No look-up fails, and the walk writes what is written without look-ups. -/
theorem visit_total {p : Pass} (hp : p.patterns = P) (x : Expr) :
    visit table p x = (p.write x).total := by
  induction x with
  | literal | path | className => rfl
  | construct => rfl
  | apply op xs ih =>
    have operands : xs.map (fun x => (x, visit table p x)) =
        (xs.map fun x => (x, p.write x)).map fun x => (x.1, x.2.total) := by
      rw [List.map_map]
      exact List.map_congr_left fun x hx => by rw [ih x hx]; rfl
    rw [visit, visitAll_eq_map, operands, application_total found hP hp, Pass.write,
      Pass.operands_eq_map]

theorem visitList_total {p : Pass} (hp : p.patterns = P) (separator : String) (xs : List Expr) :
    visitList table p separator xs = (p.writeList separator xs).total := by
  have written : visit table p = Writer.total ∘ p.write := funext (visit_total found hP hp)
  rw [visitList, written, ← List.map_map, separated_total]
  rfl

theorem visitSort_total {p : Pass} (hp : p.patterns = P) (keys : List SortKey) :
    visitSort table p keys = (p.writeSort keys).total := by
  have written : visitKey table p = Writer.total ∘ p.writeKey := by
    funext key
    rw [visitKey, visit_total found hP hp, andThen_total]
    rfl
  rw [visitSort, written, ← List.map_map, separated_total]
  rfl

end

/-- With the table a clause is written as without look-ups, whatever is to be written: nothing is
missed, neither in the table nor among the operands. -/
structure FindsAll (k : Keyed) (p : Pass) : Prop where
  /-- An expression is written or refused. -/
  visit : ∀ x b, visit k.table p x b = .ok (p.write x b)
  /-- So is a list. -/
  visitList : ∀ separator xs b,
    visitList k.table p separator xs b = .ok (p.writeList separator xs b)
  /-- So is an order. -/
  visitSort : ∀ keys b, visitSort k.table p keys b = .ok (p.writeSort keys b)
  /-- An expression is not refused for the lack of an operand that a template asks for. -/
  write : ∀ x, (p.write x).FindsOperands
  /-- Nor is a list. -/
  writeList : ∀ separator xs, (p.writeList separator xs).FindsOperands
  /-- Nor is an order. -/
  writeSort : ∀ keys, (p.writeSort keys).FindsOperands

/-- **Every look-up succeeds.** Take any changes of settings, those that are refused among them. The
table has an entry for every operator, whose template asks only for operands that the operator
takes, and the words for labels are two different identifiers. With this table all expressions,
lists and orders, well formed or not, are written or refused, and nothing is missed. -/
theorem lookups_succeed (changes : List Config.Change) :
    (after changes).Represents (.after changes) ∧
    (∀ op : Operator, ∃ t, (after changes).table[op]? = some (op.pattern t) ∧
      ∀ index ∈ t.operands, index < op.arity) ∧
    (Config.after changes).WordsValid ∧
    ∀ candidate scheme? reserved,
      (after changes).FindsAll ⟨(Config.after changes).patterns, candidate, scheme?, reserved⟩ := by
  have represents := represents_after changes
  have obtainable := Config.obtainable_after changes
  have found := represents.table
  have hP := obtainable.withinArity
  refine ⟨represents, fun op => ⟨_, found op, hP op⟩, obtainable.wordsValid, ?_⟩
  intro candidate scheme? reserved
  exact {
    visit := fun x b => congrFun (visit_total found hP rfl x) b
    visitList := fun separator xs b => congrFun (visitList_total found hP rfl separator xs) b
    visitSort := fun keys b => congrFun (visitSort_total found hP rfl keys) b
    write := Pass.findsOperands_write hP
    writeList := Pass.findsOperands_writeList hP
    writeSort := Pass.findsOperands_writeSort hP }

/-- A template is replaced twice, then one that asks for too much is refused, and so are words that
are the same. -/
def templates : List Config.Change :=
  [.template .not "no {0}", .template .matches "{0}.like({1})", .template .not "{0} is false",
    .template .neg "{0} - {1}", .words "g" "g"]

theorem lookups_succeed_templates :
    (after templates).table[Operator.not]? =
      some (Operator.not.pattern ⟨[.operand 0, .text " is false"]⟩) ∧
    (∃ written, visit (after templates).table
        ⟨(Config.after templates).patterns, ⟨"Person", "person"⟩, some .alphabetic, []⟩
        (.apply .not [.apply .matches [.path ⟨"person", ["name"]⟩, .literal (.int 1)]]) .empty =
          .ok written ∧ written.text = "name.like(a) is false") ∧
    ∃ written, visit (after templates).table
        ⟨(Config.after templates).patterns, ⟨"Person", "person"⟩, none, []⟩
        (.apply .instanceOf [.construct "Pair" []]) .empty =
          .ok written ∧ written.error? = some (.wrongArity .instanceOf 1) := by
  obtain ⟨represents, -, -, finds⟩ := lookups_succeed templates
  refine ⟨?_, ⟨_, (finds _ _ _).visit _ _, ?_⟩, _, (finds _ _ _).visit _ _, rfl⟩
  · rw [represents.table]
    exact congrArg (fun t => some (Operator.not.pattern t)) (by decide +kernel)
  · decide +kernel

end Keyed

end StoreQuery
