import StoreQuery.Proofs.Config.Obtainable
import StoreQuery.Proofs.Parameters.Plannable

/-!
# Labels that are given twice

Planning is refused for want of a source, for an expression that cannot be written, or for a label
that two clauses give. The last is up to the words of the settings: some words, valid as they are,
make a label that another scheme makes, too, and a query that comes to both is refused.

* `Refusal` : why planning is refused, and `planOf_refusal` : it is for nothing else;
* `Session.no_label_given_twice_iff` : **no query is refused for a label given twice exactly if the
  words separate labels**;
* `Session.label_grp11_given_twice` : the eleventh label of `grp` is the first of `grp1`.
-/

namespace StoreQuery

/-! ### Reasons to refuse a plan -/

/-- Why planning is refused. -/
inductive Refusal (config : Config) : QueryError → Prop where
  /-- There is no source. -/
  | noSource : Refusal config .noSource
  /-- An expression cannot be written. -/
  | clause (cause : ClauseError) : Refusal config (.clause cause)
  /-- Two clauses give a label, since the settings do not keep their labels apart. -/
  | label (label : String) (shared : ¬ config.KeepsApart) :
      Refusal config (.duplicateLabel label)

namespace Frame

variable (f : Frame)

theorem clause_failsFor (config : Config) (w : Writer) :
    FailsFor (Refusal config) (clause w) := by
  intro cause h
  unfold clause at h
  cases hw : w.clause with
  | ok d =>
    rw [hw] at h
    cases h
  | error e =>
    rw [hw] at h
    cases h
    exact .clause e

/-- Labels of a clause of its own can be added if they are apart from those that are there. -/
theorem declare_failsFor {scheme : LabelScheme} {ms : List Mark} {xs : List Expr}
    {parameters : Bindings}
    (hleaves : (∀ m ∈ ms, m.isRefusal = false) →
      ms.filterMap Mark.leaf? = xs.flatMap f.config.patterns.leaves)
    (fresh : f.config.KeepsApart → ∀ b ∈ parameters.entries, ∀ n, b.label ≠ scheme.label n) :
    FailsFor (Refusal f.config) (do
      let d ← clause ((f.pass scheme).markAll ms)
      return (some d.text, ← mergeLabels parameters d)) := by
  refine (clause_failsFor _ _).bind ?_
  intro d hd
  by_cases hapart : f.config.KeepsApart
  · obtain ⟨merged, hmerged⟩ := exists_mergeLabels (f.entries_of_clause hd hleaves) (fresh hapart)
    rw [hmerged]
    exact .ok _
  · -- Now any label that the parameters have already may come again.
    unfold mergeLabels
    rcases parameters.merge d.bindings.entries with ⟨merged, _ | label⟩
    · exact .ok _
    · exact .error (.label label hapart)

theorem filterClause_failsFor (c : Clauses) : FailsFor (Refusal f.config) (f.filterClause c) := by
  unfold filterClause
  cases c.filter with
  | none => exact .ok _
  | some x => exact (clause_failsFor _ _).map _

theorem grouping_failsFor {c : Clauses} {parameters : Bindings}
    (hparameters : parameters.entries = f.filterParameters c) :
    FailsFor (Refusal f.config) (f.grouping c parameters) := by
  unfold grouping
  split
  · exact .ok _
  · rw [groupingWriter_eq_marks]
    exact f.declare_failsFor f.filterMap_groupMarks fun hapart =>
      f.fresh_groupLabels hapart hparameters

theorem result_failsFor {c : Clauses} {columns : List Expr} {parameters : Bindings}
    (hparameters : parameters.entries = f.filterParameters c ++ f.groupParameters c) :
    FailsFor (Refusal f.config) (f.result c columns parameters) := by
  unfold result
  split
  · exact .ok _
  · rw [columnsWriter_eq_marks]
    exact f.declare_failsFor f.filterMap_columnMarks fun hapart =>
      f.fresh_columnLabels hapart hparameters

theorem ordering_failsFor (c : Clauses) : FailsFor (Refusal f.config) (f.ordering c) := by
  unfold ordering
  split
  · exact .ok _
  · exact (clause_failsFor _ _).map _

theorem shape_failsFor {c : Clauses} {columns : List Expr} {mode : Mode} {parameters : Bindings}
    (hparameters : parameters.entries = f.filterParameters c ++ f.groupParameters c) :
    FailsFor (Refusal f.config) (f.shape c columns mode parameters) := by
  have rows (window : Window) (unique : Bool) :
      FailsFor (Refusal f.config) (f.rowClauses c columns window unique parameters) := by
    unfold rowClauses
    refine (f.result_failsFor hparameters).bind ?_
    rintro ⟨result, merged⟩ -
    exact (f.ordering_failsFor c).bind fun _ _ => .ok _
  unfold shape
  cases mode with
  | count => exact .ok _
  | list window => exact (rows window false).bind fun _ _ => .ok _
  | unique => exact (rows (.first 1) true).bind fun _ _ => .ok _

theorem assemble_failsFor {c : Clauses} {columns : List Expr} {filter : FilterClause} {mode : Mode}
    (hfilter : f.filterClause c = .ok filter) :
    FailsFor (Refusal f.config) (f.assemble c columns filter mode) := by
  have first := f.entries_of_filterClause hfilter
  unfold assemble
  refine (f.grouping_failsFor first).bind ?_
  rintro ⟨grouping, parameters⟩ hgrouping
  have second := (f.entries_of_grouping hgrouping).1
  rw [first] at second
  exact (f.shape_failsFor second).bind fun _ _ => .ok _

end Frame

/-- Planning is refused for no other reason. -/
theorem planOf_refusal (config : Config) (sources : List Source) (c : Clauses) (extra : List Expr)
    (mode : Mode) : FailsFor (Refusal config) (planOf config sources c extra mode) := by
  unfold planOf
  cases hf : Frame.ofSources? config sources with
  | none => exact .error .noSource
  | some f =>
    rw [← Frame.config_of_ofSources? hf]
    exact (f.filterClause_failsFor c).bind fun filter hfilter => f.assemble_failsFor hfilter

/-! ### Queries that come to a label twice -/

namespace LabelScheme

/-- Sources with the labels before a label for variables, and one more that comes after it. -/
def sourcesBefore (s t : LabelScheme) (m n : Nat) : List Source :=
  (s.label (m + 1) :: ((List.range m).map s.label ++ (List.range n).map t.label)).map
    fun var => ⟨"Object", var⟩

variable {s t : LabelScheme} {m n : Nat}

theorem mem_vars_sourcesBefore {label : String} :
    label ∈ (sourcesBefore s t m n).map (·.var) ↔
      label = s.label (m + 1) ∨ (∃ i < m, s.label i = label) ∨ ∃ i < n, t.label i = label := by
  simp [sourcesBefore]

/-- With such sources, a label that two schemes share comes first in both. -/
theorem nextFree_sourcesBefore (shared : s.label m = t.label n) :
    s.nextFree ((sourcesBefore s t m n).map (·.var)) 0 = m ∧
      t.nextFree ((sourcesBefore s t m n).map (·.var)) 0 = n := by
  -- In each scheme the label differs from all the others, and it is the same label in both.
  have free : s.label m ∉ (sourcesBefore s t m n).map (·.var) := by
    rw [mem_vars_sourcesBefore]
    rintro (h | ⟨i, hi, h⟩ | ⟨i, hi, h⟩)
    · exact absurd (s.label_injective h) (by omega)
    · exact absurd (s.label_injective h) (by omega)
    · exact absurd (t.label_injective (h.trans shared)) (by omega)
  refine ⟨nextFree_eq (Nat.zero_le m) free ?_, nextFree_eq (Nat.zero_le n) (shared ▸ free) ?_⟩
  · exact fun i _ hi => mem_vars_sourcesBefore.2 (.inr (.inl ⟨i, hi, rfl⟩))
  · exact fun i _ hi => mem_vars_sourcesBefore.2 (.inr (.inr ⟨i, hi, rfl⟩))

end LabelScheme

/-- The literal one. -/
def Expr.one : Expr := .literal (.int 1)

namespace Frame

variable (f : Frame)

/-- The label that a clause gives to its first literal. -/
def firstLabel (scheme : LabelScheme) : String := scheme.label (scheme.nextFree f.vars 0)

/-- What is written for a clause that is one literal: its label. -/
def oneDraft (scheme : LabelScheme) : Draft :=
  ⟨f.firstLabel scheme, ⟨[⟨f.firstLabel scheme, .int 1⟩], scheme.nextFree f.vars 0 + 1⟩⟩

@[simp] theorem labels_oneDraft (scheme : LabelScheme) :
    (f.oneDraft scheme).bindings.labels = [f.firstLabel scheme] := rfl

theorem clause_one (scheme : LabelScheme) :
    clause ((f.pass scheme).write .one) = .ok (f.oneDraft scheme) := by
  simp only [clause, Writer.clause, Draft.append, Draft.empty, Pass.write, Pass.literal, Expr.one,
    Value.isNull, pass, Bindings.labelFor, Bindings.labelOf?, Bindings.empty, Bindings.assign]
  rfl

theorem mergeLabels_one {parameters : Bindings} {scheme : LabelScheme}
    (given : f.firstLabel scheme ∈ parameters.labels) :
    mergeLabels parameters (f.oneDraft scheme) =
      .error (.duplicateLabel (f.firstLabel scheme)) := by
  have refused : parameters.merge (f.oneDraft scheme).bindings.entries =
      (parameters, some (f.firstLabel scheme)) :=
    Bindings.merge_cons_of_mem (e := ⟨f.firstLabel scheme, .int 1⟩) given []
  rw [mergeLabels, refused]

theorem filterClause_one {c : Clauses} (hfilter : c.filter = some .one) :
    f.filterClause c = .ok ⟨some (f.oneDraft Config.filterLabels).text,
      (f.oneDraft Config.filterLabels).bindings⟩ := by
  simp only [filterClause, hfilter, f.clause_one]
  rfl

theorem grouping_one {c : Clauses} (hgroups : c.groupBy = [.one]) (hhaving : c.having = none)
    (parameters : Bindings) : f.grouping c parameters =
      (mergeLabels parameters (f.oneDraft f.config.groupLabels)).map
        fun merged => (some (f.oneDraft f.config.groupLabels).text, merged) := by
  have written : f.groupingWriter c = (f.pass f.config.groupLabels).write .one := by
    rw [groupingWriter, hgroups, hhaving]
    rfl
  rw [grouping, if_neg (by simp [hgroups]), written, f.clause_one]
  rfl

theorem shape_one {c : Clauses} (hdistinct : c.distinct = false) {parameters : Bindings}
    (given : f.firstLabel f.config.columnLabels ∈ parameters.labels) :
    f.shape c [.one] .unique parameters =
      .error (.duplicateLabel (f.firstLabel f.config.columnLabels)) := by
  have written : f.columnsWriter c.distinct [.one] = (f.pass f.config.columnLabels).write .one := by
    rw [hdistinct]
    rfl
  have columns : ¬ ([Expr.one].isEmpty || f.isCandidate [.one]) = true := by
    simp [isCandidate, Expr.isSource, Expr.one]
  rw [shape, rowClauses, result, if_neg columns, written, f.clause_one]
  simp only [bind, Except.bind, f.mergeLabels_one given]

end Frame

section

variable {config : Config} {sources : List Source} {f : Frame}
  (hf : Frame.ofSources? config sources = some f)
include hf

/-- A group is refused the label of the condition on objects. -/
theorem planOf_filter_group {c : Clauses} (hfilter : c.filter = some .one)
    (hgroups : c.groupBy = [.one]) (hhaving : c.having = none)
    (shared : f.firstLabel Config.filterLabels = f.firstLabel f.config.groupLabels) :
    planOf config sources c [] .count =
      .error (.duplicateLabel (f.firstLabel f.config.groupLabels)) := by
  have given : f.firstLabel f.config.groupLabels ∈
      (f.oneDraft Config.filterLabels).bindings.labels := by
    simp [shared]
  simp only [planOf, hf, f.filterClause_one hfilter, Frame.assemble, f.grouping_one hgroups hhaving,
    f.mergeLabels_one given, bind, Except.bind, Except.map]

/-- A column is refused a label that is given before. -/
theorem planOf_column {c : Clauses} {filter : FilterClause} {text : Option String}
    {parameters : Bindings} (hfilter : f.filterClause c = .ok filter)
    (hgrouping : f.grouping c filter.bindings = .ok (text, parameters))
    (hcolumns : c.columns = []) (hdistinct : c.distinct = false)
    (given : f.firstLabel f.config.columnLabels ∈ parameters.labels) :
    planOf config sources c [.one] .unique =
      .error (.duplicateLabel (f.firstLabel f.config.columnLabels)) := by
  have columns : (c.addColumns [.one]).columns = [.one] := by
    rw [Clauses.addColumns, hcolumns]
    rfl
  simp only [planOf, hf, hfilter, Frame.assemble, hgrouping, columns, f.shape_one hdistinct given,
    bind, Except.bind]

end

theorem firstLabel_sourcesBefore {config : Config} {s t : LabelScheme} {m n : Nat}
    (shared : s.label m = t.label n) {f : Frame}
    (hf : Frame.ofSources? config (LabelScheme.sourcesBefore s t m n) = some f) :
    f.firstLabel s = f.firstLabel t := by
  obtain ⟨first, second⟩ := LabelScheme.nextFree_sourcesBefore shared
  rw [← Frame.vars_of_ofSources? hf] at first second
  rw [Frame.firstLabel, first, Frame.firstLabel, second, shared]

/-- If the settings do not keep labels apart, two clauses share a label. -/
theorem Config.exists_shared {config : Config} (h : ¬ config.KeepsApart) :
    (∃ m n, filterLabels.label m = config.groupLabels.label n) ∨
      (∃ m n, filterLabels.label m = config.columnLabels.label n) ∨
      ∃ m n, config.groupLabels.label m = config.columnLabels.label n := by
  by_contra none
  simp only [not_or, not_exists] at none
  exact h ⟨none.1, none.2.1, none.2.2⟩

namespace Session

variable {σ η : Type} (e : Engine σ η)

/-- If the settings do not keep labels apart, some query comes to a label twice: its sources take
the labels before that one, and its clauses are single literals. -/
theorem exists_label_given_twice {config : Config} (h : ¬ config.KeepsApart) (state : σ) :
    ∃ calls extra mode label, ((run e calls (new config, state)).1.plan extra mode).1 =
      .error (.duplicateLabel label) := by
  -- One query for each two of the three kinds of labels.
  obtain ⟨m, n, shared⟩ | ⟨m, n, shared⟩ | ⟨m, n, shared⟩ := Config.exists_shared h
  · let sources := LabelScheme.sourcesBefore Config.filterLabels config.groupLabels m n
    exact ⟨[.addSources sources, .addFilter .one, .groupBy [.one]], [], .count, _,
      (plan_run e config _ state _ _).trans
        (planOf_filter_group rfl rfl rfl rfl (firstLabel_sourcesBefore shared rfl))⟩
  · let sources := LabelScheme.sourcesBefore Config.filterLabels config.columnLabels m n
    obtain ⟨f, hf⟩ : ∃ f, Frame.ofSources? config sources = some f := ⟨_, rfl⟩
    have given : f.firstLabel f.config.columnLabels ∈
        (f.oneDraft Config.filterLabels).bindings.labels := by
      rw [Frame.config_of_ofSources? hf]
      simp [firstLabel_sourcesBefore shared hf]
    exact ⟨[.addSources sources, .addFilter .one], [.one], .unique, _,
      (plan_run e config _ state _ _).trans
        (planOf_column hf (f.filterClause_one rfl) rfl rfl rfl given)⟩
  · let sources := LabelScheme.sourcesBefore config.groupLabels config.columnLabels m n
    obtain ⟨f, hf⟩ : ∃ f, Frame.ofSources? config sources = some f := ⟨_, rfl⟩
    have given : f.firstLabel f.config.columnLabels ∈
        (f.oneDraft f.config.groupLabels).bindings.labels := by
      rw [Frame.config_of_ofSources? hf]
      simp [firstLabel_sourcesBefore shared hf]
    exact ⟨[.addSources sources, .groupBy [.one]], [.one], .unique, _,
      (plan_run e config _ state _ _).trans
        (planOf_column hf rfl (f.grouping_one rfl rfl _) rfl rfl given)⟩

/-- **A label is given twice exactly by settings whose words do not separate labels.** The settings
are such that their words passed the checks: they are two different identifiers. If neither is a
lower-case letter, alone or with a numeral, and neither is the other with a numeral at its end, then
no query, planned after any calls, is refused for a label given twice. Otherwise some query is. -/
theorem no_label_given_twice_iff {config : Config} (hconfig : config.Obtainable) (state : σ) :
    (∀ calls extra mode label, ((run e calls (new config, state)).1.plan extra mode).1 ≠
      .error (.duplicateLabel label)) ↔ config.separatesLabels = true := by
  rw [← Config.keepsApart_iff hconfig.wordsValid.differ]
  constructor
  · intro never
    by_contra h
    obtain ⟨calls, extra, mode, label, refused⟩ := exists_label_given_twice e h state
    exact never calls extra mode label refused
  · intro hapart calls extra mode label h
    rw [plan_run] at h
    cases planOf_refusal config _ _ extra mode _ h with
    | label _ shared => exact shared hapart

/-- Words may separate labels though one begins the other. -/
theorem no_label_given_twice_grp_grp_1 :
    ∃ config, Config.default.withWords "grp" "grp_1" = .ok config ∧
      ∀ calls extra mode label, ((run refusing calls (new config, ())).1.plan extra mode).1 ≠
        .error (.duplicateLabel label) := by
  have changed : Config.default.withWords "grp" "grp_1" = .ok ⟨.default, "grp", "grp_1"⟩ := rfl
  have obtainable : Config.Obtainable ⟨.default, "grp", "grp_1"⟩ := .withWords .default changed
  exact ⟨_, changed, (no_label_given_twice_iff refusing obtainable ()).2 (by decide)⟩

/-! ### Words that do not separate labels -/

/-- Persons in groups by the numbers from one to eleven. -/
def elevenGroups : List Call :=
  [.addSources [⟨"Person", "person"⟩],
    .groupBy ((List.range 11).map fun n => .literal (.int (.ofNat (n + 1))))]

/-- The words `grp` and `grp1` are accepted, but the eleventh label of the one is the first of the
other. -/
theorem label_grp11_given_twice :
    ∃ config, Config.default.withWords "grp" "grp1" = .ok config ∧
      ((run refusing elevenGroups (new config, ())).1.plan [.one] .unique).1 =
        .error (.duplicateLabel "grp11") := by
  have refused : ((run refusing elevenGroups
      (new ⟨.default, "grp", "grp1"⟩, ())).1.plan [.one] .unique).1.map (fun _ => ()) =
        .error (.duplicateLabel "grp11") := by
    decide +kernel
  exact ⟨_, rfl, eq_error_of_map refused⟩

end Session

end StoreQuery
