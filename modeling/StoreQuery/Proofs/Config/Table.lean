import StoreQuery.Proofs.Clause.Spelling
import StoreQuery.Proofs.Config.Obtainable

/-!
# The table of templates

Settings that are kept in a table may miss an operator, and a template may ask for an operand that
its operator does not take. Neither comes about: the table starts with all operators, entries are
only replaced, and a template that asks for too much is refused.

* `Config.Obtainable.withinArity` : no template of settings that can be had asks for too much;
* `Config.change` : settings are changed step by step, and a change may be refused;
* `Keyed` : settings with a table in which an operator is looked up;
* `Keyed.represents_after` : **settings with a table go through the same changes**, and every
  operator is found.
-/

namespace StoreQuery

deriving instance Hashable for Operator

/-! ### Templates that are accepted -/

/-- The greatest operand stands for all that a template asks for. -/
theorem Template.forall_operands_lt_iff {t : Template} {n : Nat} :
    (∀ index ∈ t.operands, index < n) ↔
      ∀ greatest, t.maxOperand? = some greatest → greatest < n := by
  constructor
  · intro within greatest hmax
    exact within greatest (List.max?_eq_some_iff.1 hmax).1
  · intro bound index hindex
    cases hmax : t.maxOperand? with
    | none =>
      rw [List.max?_eq_none_iff.1 hmax] at hindex
      cases hindex
    | some greatest =>
      have := (List.max?_eq_some_iff.1 hmax).2 index hindex
      exact Nat.lt_of_le_of_lt this (bound greatest hmax)

namespace Patterns

/-- A text is accepted if it is a template and asks only for operands that the operator takes. -/
theorem check_eq_ok_iff {op : Operator} {source : String} {t : Template} :
    check op source = .ok t ↔
      Template.parse source = .ok t ∧ ∀ index ∈ t.operands, index < op.arity := by
  rw [Template.forall_operands_lt_iff, check]
  cases Template.parse source with
  | error e => simp
  | ok u =>
    rw [Except.ok.injEq]
    dsimp only
    split
    · rename_i greatest hmax
      -- Only the greatest operand is compared with the arity.
      split
      · rename_i beyond
        refine iff_of_false nofun ?_
        rintro ⟨rfl, bound⟩
        exact absurd (bound greatest hmax) (Nat.not_lt.2 beyond)
      · rename_i within
        rw [Except.ok.injEq]
        refine (and_iff_left_of_imp ?_).symm
        rintro rfl index hindex
        obtain rfl : greatest = index := Option.some.inj (hmax.symm.trans hindex)
        exact Nat.not_le.1 within
    · rename_i hmax
      rw [Except.ok.injEq]
      refine (and_iff_left_of_imp ?_).symm
      rintro rfl index hindex
      rw [hmax] at hindex
      cases hindex

theorem WithinArity.set {P : Patterns} (hP : P.WithinArity) {op : Operator} {t : Template}
    (ht : ∀ index ∈ t.operands, index < op.arity) : (P.set op t).WithinArity := by
  intro o
  by_cases ho : o = op
  · subst ho
    rw [template_set_self]
    exact ht
  · rw [template_set_of_ne P t ho]
    exact hP o

end Patterns

namespace Config

/-- **No template of settings that can be had asks for more operands than its operator takes.** -/
theorem Obtainable.withinArity {c : Config} (h : c.Obtainable) : c.patterns.WithinArity := by
  refine h.accepted_induction (motive := fun c => c.patterns.WithinArity)
    ?default ?withTemplate ?withWords
  case default => exact Patterns.withinArity_default
  case withTemplate =>
    intro c op source t hc check
    exact hc.set (Patterns.check_eq_ok_iff.1 check).2
  case withWords =>
    intro c group column hc _
    exact hc

/-- A change of settings. -/
inductive Change where
  /-- Another template for an operator. -/
  | template (op : Operator) (source : String)
  /-- Other words for labels. -/
  | words (group column : String)
  /-- Start again with what a text says. -/
  | text (text : String)

/-- Make a change, or refuse it. -/
def change (c : Config) : Change → Except ConfigError Config
  | .template op source => c.withTemplate op source
  | .words group column => c.withWords group column
  | .text text => ofText text

/-- The settings after changes, one after another; those that are refused change nothing. -/
def after (changes : List Change) : Config :=
  changes.foldl (fun c change => (c.change change).toOption.getD c) default

theorem Obtainable.change {c c' : Config} {change : Change} (h : c.Obtainable)
    (changed : c.change change = .ok c') : c'.Obtainable := by
  cases change with
  | template op source => exact h.withTemplate changed
  | words group column => exact h.withWords changed
  | text text => exact .ofText changed

theorem obtainable_after (changes : List Change) : (after changes).Obtainable := by
  have steps {c : Config} (h : c.Obtainable) :
      Obtainable (changes.foldl (fun c change => (c.change change).toOption.getD c) c) := by
    induction changes generalizing c with
    | nil => exact h
    | cons change changes ih =>
      refine ih ?_
      dsimp only
      cases changed : c.change change with
      | ok c' => exact h.change changed
      | error cause => exact h
  exact steps .default

end Config

/-! ### Settings with a table -/

/-- What a table says of an operator. -/
structure Pattern where
  /-- The template. -/
  template : Template
  /-- How tightly an application holds together. -/
  strength : Strength
  /-- How tightly an operand must hold together. -/
  operandStrength : Strength

/-- An operator with another template keeps its strengths. -/
def Operator.pattern (op : Operator) (t : Template) : Pattern :=
  ⟨t, op.strength, op.operandStrength⟩

@[simp] theorem Operator.template_pattern (op : Operator) (t : Template) :
    (op.pattern t).template = t := rfl

@[simp] theorem Operator.strength_pattern (op : Operator) (t : Template) :
    (op.pattern t).strength = op.strength := rfl

@[simp] theorem Operator.operandStrength_pattern (op : Operator) (t : Template) :
    (op.pattern t).operandStrength = op.operandStrength := rfl

/-- Settings whose templates are in a table. -/
structure Keyed where
  /-- The table. -/
  table : Std.HashMap Operator Pattern
  /-- The word for labels of groups. -/
  groupWord : String
  /-- The word for labels of columns. -/
  columnWord : String

namespace Keyed

/-- A table is started with all operators. -/
def default : Keyed where
  table := .ofList (Operator.all.map fun op => (op, op.pattern op.template))
  groupWord := "varg"
  columnWord := "varp"

variable (k : Keyed)

/-- Replace both words. -/
def withWords (group column : String) : Except ConfigError Keyed :=
  (Config.checkWords group column).map fun _ => { k with groupWord := group, columnWord := column }

/-- Put a template in the table. -/
def withTemplate (op : Operator) (source : String) : Except ConfigError Keyed :=
  match Patterns.check op source with
  | .ok t => .ok { k with table := k.table.insert op (op.pattern t) }
  | .error cause => .error (.invalidTemplate op cause)

/-- Put a template in the table for an operator given by its name. -/
def withNamedTemplate (name source : String) : Except ConfigError Keyed :=
  match Operator.ofName? name with
  | some op => k.withTemplate op source
  | none => .error (.unknownOperator name)

/-- The settings of a settings text: first the words, then the templates, one after another. -/
def ofText (text : String) : Except ConfigError Keyed :=
  match ConfigText.read text with
  | some o =>
    (default.withWords (o.groupWord.getD default.groupWord)
      (o.columnWord.getD default.columnWord)).bind
      (o.templates.foldlM fun k t => k.withNamedTemplate t.1 t.2)
  | none => .error .malformed

/-- Make a change, or refuse it. -/
def change : Config.Change → Except ConfigError Keyed
  | .template op source => k.withTemplate op source
  | .words group column => k.withWords group column
  | .text text => ofText text

/-- The settings after changes, one after another; those that are refused change nothing. -/
def after (changes : List Config.Change) : Keyed :=
  changes.foldl (fun k change => (k.change change).toOption.getD k) default

/-- The table has every operator, with the template that the settings give it. -/
structure Represents (k : Keyed) (c : Config) : Prop where
  /-- Every operator is found. -/
  table : ∀ op : Operator, k.table[op]? = some (op.pattern (c.patterns.template op))
  /-- The words for groups are the same. -/
  groupWord : k.groupWord = c.groupWord
  /-- The words for columns are the same. -/
  columnWord : k.columnWord = c.columnWord

theorem represents_default : default.Represents .default where
  table op := by
    refine Std.HashMap.getElem?_ofList_of_mem (beq_self_eq_true op) ?_ ?_
    · decide
    · exact List.mem_map_of_mem (Operator.mem_all op)
  groupWord := rfl
  columnWord := rfl

/-- Two steps agree: either both give settings, or both are refused for the same cause. -/
inductive Agree : Except ConfigError Keyed → Except ConfigError Config → Prop where
  | ok {k : Keyed} {c : Config} (h : k.Represents c) : Agree (.ok k) (.ok c)
  | error (cause : ConfigError) : Agree (.error cause) (.error cause)

variable {k} {c : Config}

namespace Agree

variable {x : Except ConfigError Keyed} {y : Except ConfigError Config}

theorem bind (h : Agree x y) {f : Keyed → Except ConfigError Keyed}
    {g : Config → Except ConfigError Config}
    (hfg : ∀ {k : Keyed} {c : Config}, k.Represents c → Agree (f k) (g c)) :
    Agree (x >>= f) (y >>= g) := by
  cases h with
  | ok h => exact hfg h
  | error cause => exact .error cause

/-- What is refused leaves things as they were. -/
theorem getD (h : Agree x y) (hk : k.Represents c) :
    Represents (x.toOption.getD k) (y.toOption.getD c) := by
  cases h with
  | ok h => exact h
  | error cause => exact hk

end Agree

theorem Represents.withWords (h : k.Represents c) (group column : String) :
    Agree (k.withWords group column) (c.withWords group column) := by
  unfold Keyed.withWords Config.withWords
  cases Config.checkWords group column with
  | ok => exact .ok ⟨h.table, rfl, rfl⟩
  | error cause => exact .error cause

theorem Represents.withTemplate (h : k.Represents c) (op : Operator) (source : String) :
    Agree (k.withTemplate op source) (c.withTemplate op source) := by
  unfold Keyed.withTemplate Config.withTemplate Patterns.override
  cases Patterns.check op source with
  | error cause => exact .error _
  | ok t =>
    refine .ok ⟨?_, h.groupWord, h.columnWord⟩
    intro o
    rw [Std.HashMap.getElem?_insert]
    by_cases ho : o = op
    · subst ho
      simp
    · rw [Patterns.template_set_of_ne _ _ ho, ← h.table o]
      simp [Ne.symm ho]

theorem Represents.withNamedTemplate (h : k.Represents c) (name source : String) :
    Agree (k.withNamedTemplate name source) (c.withNamedTemplate name source) := by
  unfold Keyed.withNamedTemplate Config.withNamedTemplate
  cases Operator.ofName? name with
  | none => exact .error _
  | some op => exact h.withTemplate op source

theorem Represents.foldlM (h : k.Represents c) (entries : List (String × String)) :
    Agree (entries.foldlM (fun k t => k.withNamedTemplate t.1 t.2) k)
      (entries.foldlM (fun c t => c.withNamedTemplate t.1 t.2) c) := by
  induction entries generalizing k c with
  | nil => exact .ok h
  | cons entry entries ih =>
    rw [List.foldlM_cons, List.foldlM_cons]
    exact (h.withNamedTemplate entry.1 entry.2).bind ih

theorem agree_ofText (text : String) : Agree (ofText text) (Config.ofText text) := by
  unfold ofText Config.ofText
  cases ConfigText.read text with
  | none => exact .error _
  | some o =>
    dsimp only
    rw [Config.ofOverrides_eq]
    exact (represents_default.withWords _ _).bind fun h => h.foldlM o.templates

/-- Settings with a table are changed and refused as those without. -/
theorem Represents.change (h : k.Represents c) (change : Config.Change) :
    Agree (k.change change) (c.change change) := by
  cases change with
  | template op source => exact h.withTemplate op source
  | words group column => exact h.withWords group column
  | text text => exact agree_ofText text

/-- **Settings with a table go through the same changes**, those that are refused among them, and
every operator is found in the table. -/
theorem represents_after (changes : List Config.Change) :
    (after changes).Represents (.after changes) := by
  have steps {k : Keyed} {c : Config} (h : k.Represents c) :
      Represents (changes.foldl (fun k change => (k.change change).toOption.getD k) k)
        (changes.foldl (fun c change => (c.change change).toOption.getD c) c) := by
    induction changes generalizing k c with
    | nil => exact h
    | cons change changes ih => exact ih ((h.change change).getD h)
  exact steps represents_default

end Keyed

end StoreQuery
