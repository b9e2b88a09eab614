import Mathlib.Data.List.Induction
import StoreQuery.Proofs.Clause.Lookups

/-!
# Overrides of templates

A template is replaced for one operator. Whether an expression written with other operators is the
same is not plain, since what surrounds an operand looks up how tightly the operand holds together.
It is the same because an override leaves the strengths alone.

* `Patterns.check_eq_error_iff` : which texts are refused;
* `Operator.lastTemplate` : the template of the last call that was accepted, found in the calls
  alone;
* `Pass.write_congr` : writing an expression depends on the templates of its operators only;
* `Keyed.overrides_local` : **overrides are local, the last one counts, and strengths stay.**
-/

namespace StoreQuery

/-! ### Operators of an expression -/

namespace Expr

mutual
/-- The operators of an expression, left to right. -/
def operators : Expr → List Operator
  | .literal _ => []
  | .path _ => []
  | .className _ => []
  | .apply op xs => op :: operatorsOfAll xs
  | .construct _ xs => operatorsOfAll xs

/-- The operators of several expressions. -/
def operatorsOfAll : List Expr → List Operator
  | [] => []
  | x :: xs => operators x ++ operatorsOfAll xs
end

@[simp] theorem operatorsOfAll_eq_flatMap (xs : List Expr) :
    operatorsOfAll xs = xs.flatMap operators := by
  induction xs with
  | nil => rfl
  | cons x xs ih => simp [operatorsOfAll, ih]

theorem operators_apply (op : Operator) (xs : List Expr) :
    (Expr.apply op xs).operators = op :: xs.flatMap operators := by simp [operators]

end Expr

/-- The marks of an expression are those of the templates of its operators. -/
theorem Patterns.marks_congr {P Q : Patterns} {e : Expr}
    (h : ∀ op ∈ e.operators, P.template op = Q.template op) : P.marks e = Q.marks e := by
  induction e with
  | literal | path | className | construct => rfl
  | apply op xs ih =>
    rw [Expr.operators_apply, List.forall_mem_cons] at h
    have operands : (xs.map fun x => (x, P.marks x)) = xs.map fun x => (x, Q.marks x) := by
      refine List.map_congr_left fun x hx => ?_
      rw [ih x hx fun o ho => h.2 o (List.mem_flatMap.2 ⟨x, hx, ho⟩)]
    simp only [marks, marksOfAll_eq_map, operands, applicationMarks, h.1]

namespace Pass

theorem mark_patterns (p : Pass) (Q : Patterns) (m : Mark) :
    { p with patterns := Q }.mark m = p.mark m := by
  obtain s | (q | name | v) | e := m <;> rfl

/-- Writing an expression depends on the templates of its operators only. -/
theorem write_congr (p : Pass) {Q : Patterns} {e : Expr}
    (h : ∀ op ∈ e.operators, Q.template op = p.patterns.template op) :
    { p with patterns := Q }.write e = p.write e := by
  have mark : { p with patterns := Q }.mark = p.mark := funext (p.mark_patterns Q)
  rw [write_eq_marks, write_eq_marks, markAll, markAll, mark, Patterns.marks_congr h]

end Pass

/-! ### Calls that are accepted -/

namespace Patterns

/-- A text is refused if it is no template or asks for an operand that the operator does not
take. -/
theorem check_eq_error_iff {op : Operator} {source : String} :
    (∃ e, check op source = .error e) ↔ (∃ e, Template.parse source = .error e) ∨
      ∃ t, Template.parse source = .ok t ∧ ∃ index ∈ t.operands, op.arity ≤ index := by
  constructor
  · rintro ⟨e, he⟩
    cases hparse : Template.parse source with
    | error e => exact .inl ⟨e, rfl⟩
    | ok t =>
      refine .inr ⟨t, rfl, ?_⟩
      by_contra none
      have within : ∀ index ∈ t.operands, index < op.arity :=
        fun index hindex => Nat.not_le.1 fun beyond => none ⟨index, hindex, beyond⟩
      rw [check_eq_ok_iff.2 ⟨hparse, within⟩] at he
      cases he
  · intro h
    cases hcheck : check op source with
    | error e => exact ⟨e, rfl⟩
    | ok t =>
      obtain ⟨hparse, within⟩ := check_eq_ok_iff.1 hcheck
      rcases h with ⟨e, he⟩ | ⟨u, hu, index, hindex, beyond⟩
      · rw [hparse] at he
        cases he
      · obtain rfl : t = u := Except.ok.inj (hparse.symm.trans hu)
        exact absurd (within index hindex) (Nat.not_lt.2 beyond)

end Patterns

namespace Operator

/-- The template of a text that the operator accepts: it can be read, and asks only for operands
that there are. -/
def accepted? (op : Operator) (source : String) : Option Template :=
  (Template.parse source).toOption.filter fun t => t.operands.all fun index => index < op.arity

/-- The template of the last call for the operator that is accepted, or else its default one. -/
def lastTemplate (calls : List (Operator × String)) (op : Operator) : Template :=
  ((calls.filter fun call => call.1 = op).filterMap fun call => op.accepted? call.2).getLast?.getD
    op.template

theorem accepted?_eq (op : Operator) (source : String) :
    op.accepted? source = (Patterns.check op source).toOption := by
  ext t
  have accepted : op.accepted? source = some t ↔
      Template.parse source = .ok t ∧ ∀ index ∈ t.operands, index < op.arity := by
    unfold accepted?
    cases Template.parse source with
    | error e => simp [Except.toOption]
    | ok u =>
      rw [Option.filter_eq_some_iff]
      constructor
      · rintro ⟨hu, within⟩
        cases hu
        simpa using within
      · rintro ⟨hu, within⟩
        cases hu
        simpa [Except.toOption] using within
  rw [accepted, ← Patterns.check_eq_ok_iff]
  cases Patterns.check op source <;> simp [Except.toOption]

theorem lastTemplate_snoc (calls : List (Operator × String)) (op o : Operator) (source : String) :
    lastTemplate (calls ++ [(op, source)]) o =
      if o = op then ((Patterns.check op source).toOption).getD (lastTemplate calls o)
      else lastTemplate calls o := by
  unfold lastTemplate
  rw [List.filter_append, List.filterMap_append]
  by_cases ho : o = op
  · subst ho
    simp only [List.filter_cons, decide_true, if_true, List.filter_nil, List.filterMap_cons,
      accepted?_eq, List.filterMap_nil]
    cases (Patterns.check o source).toOption with
    | none => simp
    | some t => simp
  · simp [ho, Ne.symm ho]

end Operator

/-! ### Runs of calls -/

/-- Calls that replace templates, as changes of settings. -/
def Config.overrides (calls : List (Operator × String)) : List Config.Change :=
  calls.map fun call => .template call.1 call.2

namespace Config

theorem after_snoc (changes : List Change) (change : Change) :
    after (changes ++ [change]) =
      (((after changes).change change).toOption).getD (after changes) := by
  simp [after]

theorem overrides_snoc (calls : List (Operator × String)) (op : Operator) (source : String) :
    overrides (calls ++ [(op, source)]) = overrides calls ++ [.template op source] := by
  simp [overrides]

/-- After calls, each operator has the template of the last one that was accepted. -/
theorem template_after_overrides (calls : List (Operator × String)) (o : Operator) :
    (after (overrides calls)).patterns.template o = o.lastTemplate calls := by
  induction calls using List.reverseRecOn with
  | nil => rfl
  | append_singleton calls call ih =>
    obtain ⟨op, source⟩ := call
    rw [overrides_snoc, after_snoc, Operator.lastTemplate_snoc, ← ih, change, withTemplate,
      Patterns.override]
    cases Patterns.check op source with
    | error e => exact (ite_self _).symm
    | ok t =>
      by_cases ho : o = op
      · subst ho
        rw [if_pos rfl]
        exact Patterns.template_set_self _ _ _
      · rw [if_neg ho]
        exact Patterns.template_set_of_ne _ _ ho

end Config

namespace Keyed

open Config (overrides)

theorem after_snoc (changes : List Config.Change) (change : Config.Change) :
    after (changes ++ [change]) =
      (((after changes).change change).toOption).getD (after changes) := by
  simp [after]

/-- A text is refused if it is no template or asks for an operand that the operator does not take,
whatever the table. -/
theorem withTemplate_eq_error_iff (k : Keyed) {op : Operator} {source : String} :
    (∃ cause, k.withTemplate op source = .error cause) ↔
      (∃ e, Template.parse source = .error e) ∨
      ∃ t, Template.parse source = .ok t ∧ ∃ index ∈ t.operands, op.arity ≤ index := by
  rw [← Patterns.check_eq_error_iff, withTemplate]
  cases Patterns.check op source <;> simp

/-- A call that is refused leaves the table as it was. -/
theorem after_overrides_of_error {calls : List (Operator × String)} {op : Operator}
    {source : String}
    (h : ∃ cause, (after (overrides calls)).withTemplate op source = .error cause) :
    after (overrides (calls ++ [(op, source)])) = after (overrides calls) := by
  obtain ⟨cause, hcause⟩ := h
  rw [Config.overrides_snoc, after_snoc, change, hcause]
  rfl

/-- The walk takes the templates from the table alone. -/
theorem visit_patterns (table : Std.HashMap Operator Pattern) (p : Pass) (Q : Patterns) (e : Expr) :
    visit table { p with patterns := Q } e = visit table p e := by
  induction e with
  | literal | path | className | construct => rfl
  | apply op xs ih =>
    have operands : (xs.map fun x => (x, visit table { p with patterns := Q } x)) =
        xs.map fun x => (x, visit table p x) :=
      List.map_congr_left fun x hx => by rw [ih x hx]
    rw [visit, visit, visitAll_eq_map, visitAll_eq_map, operands]

/-- With the table after changes an expression is written as without look-ups. -/
theorem visit_after (changes : List Config.Change) (p : Pass) (e : Expr) :
    visit (after changes).table p e =
      ({ p with patterns := (Config.after changes).patterns }.write e).total := by
  rw [← visit_patterns _ p (Config.after changes).patterns]
  exact visit_total (represents_after changes).table (Config.obtainable_after changes).withinArity
    rfl e

/-- **Overrides are local, the last one counts, and strengths stay.** After any calls each operator
has the template of the last call for it that was accepted, and the strengths it has by default. A
call is refused exactly if its text is no template or asks for an operand that the operator does not
take, and then the table stays as it was. A call makes no difference to expressions without its
operator: with the table before and with the table after, the same text is written, with the same
labels and the same error, if there is one. -/
theorem overrides_local (calls : List (Operator × String)) :
    (∀ op : Operator, (after (overrides calls)).table[op]? =
        some ⟨op.lastTemplate calls, op.strength, op.operandStrength⟩ ∧
      (Config.after (overrides calls)).patterns.template op = op.lastTemplate calls) ∧
    ∀ op source,
      ((∃ cause, (after (overrides calls)).withTemplate op source = .error cause) ↔
        (∃ e, Template.parse source = .error e) ∨
        ∃ t, Template.parse source = .ok t ∧ ∃ index ∈ t.operands, op.arity ≤ index) ∧
      ((∃ cause, (after (overrides calls)).withTemplate op source = .error cause) →
        after (overrides (calls ++ [(op, source)])) = after (overrides calls)) ∧
      ∀ e : Expr, op ∉ e.operators → ∀ (p : Pass) (b : Bindings), ∃ w : Written,
        visit (after (overrides calls)).table p e b = .ok w ∧
        visit (after (overrides (calls ++ [(op, source)]))).table p e b = .ok w ∧
        { p with patterns := (Config.after (overrides calls)).patterns }.write e b = w ∧
        { p with patterns := (Config.after (overrides (calls ++ [(op, source)]))).patterns }.write
          e b = w := by
  have template := Config.template_after_overrides calls
  refine ⟨?_, fun op source => ⟨withTemplate_eq_error_iff _, after_overrides_of_error, ?_⟩⟩
  · intro op
    rw [(represents_after _).table, template]
    exact ⟨rfl, rfl⟩
  · intro e he p b
    -- The call changes one template, and the expression asks only for others.
    have same : { p with patterns := (Config.after (overrides (calls ++ [(op, source)]))).patterns
        }.write e = { p with patterns := (Config.after (overrides calls)).patterns }.write e := by
      refine Pass.write_congr { p with patterns := (Config.after (overrides calls)).patterns } ?_
      intro o ho
      rw [template, Config.template_after_overrides, Operator.lastTemplate_snoc, if_neg]
      rintro rfl
      exact he ho
    rw [visit_after, visit_after, same]
    exact ⟨_, rfl, rfl, rfl, rfl⟩

/-- A negation gets its template by the third call of four; the second and the fourth are
refused. -/
def negations : List (Operator × String) :=
  [(.not, "no \x7b0\x7d"), (.not, "no \x7b1\x7d"), (.not, "\x7b0\x7d is false"),
    (.not, "\x7b0 is false")]

/-- Another template for tests of equality makes no difference to a negated disjunction. -/
theorem overrides_local_negations :
    (after (overrides negations)).table[Operator.not]? =
      some ⟨⟨[.operand 0, .text " is false"]⟩, .unary, .unary⟩ ∧
    after (overrides (negations ++ [(.eq, "\x7b2\x7d")])) = after (overrides negations) ∧
    ∃ w, w.text = "(a || varg1) is false" ∧
      visit (after (overrides (negations ++ [(.eq, "\x7b0\x7d is \x7b1\x7d")]))).table
        ⟨.default, ⟨"Person", "person"⟩, some (.numbered "varg"), []⟩
        (.apply .not [.apply .or [.path ⟨"person", ["a"]⟩, .literal (.int 1)]]) .empty =
          .ok w := by
  obtain ⟨entries, steps⟩ := overrides_local negations
  refine ⟨(entries .not).1.trans ?_, (steps .eq _).2.1 ((steps .eq _).1.2 ?_), ?_⟩
  · exact congrArg (fun t => some (Pattern.mk t .unary .unary)) (by decide +kernel)
  · exact .inr ⟨⟨[.operand 2]⟩, by decide +kernel, 2, by decide, by decide⟩
  · obtain ⟨w, -, after, written, -⟩ := (steps .eq "\x7b0\x7d is \x7b1\x7d").2.2
      (.apply .not [.apply .or [.path ⟨"person", ["a"]⟩, .literal (.int 1)]]) (by decide)
      ⟨.default, ⟨"Person", "person"⟩, some (.numbered "varg"), []⟩ .empty
    refine ⟨w, ?_, after⟩
    rw [← written]
    decide +kernel

end Keyed

end StoreQuery
