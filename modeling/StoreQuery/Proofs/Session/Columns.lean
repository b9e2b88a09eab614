import StoreQuery.Proofs.Session.Grouping

/-!
# Columns and their shortcuts

A plan with rows does not write its columns if there are none, or if the only one is the candidate
itself. An engine that is told no result returns the object, which a text would call `this`. So
these plans mean what the plain text would say, with `distinct` before it or not.

* `Frame.rowColumns` : the columns of a row, at least one;
* `Pass.write_of_isSource` : what is recognized as the candidate is written `this`, without labels;
* `Frame.result_writes_columns` : the result, written in full or not, is the text of the columns;
* `Session.result_writes_columns_of_plan` : **so it is in every plan with rows.**
-/

namespace StoreQuery

/-- A candidate is written `this`, without labels. -/
theorem Pass.write_of_isSource (p : Pass) {x : Expr} (h : x.isSource p.candidate = true)
    (b : Bindings) : p.write x b = ⟨"this", b, none⟩ := by
  cases x with
  | path q =>
    simp only [Expr.isSource, Bool.and_eq_true, beq_iff_eq] at h
    simp [write, pathText, h, Writer.text]
  | _ => cases h

namespace Plan

/-- The object itself, in the text of a result. -/
def thisResult : String := "this"

/-- The text of the result; an engine that is told none returns the objects themselves. -/
def fullResult (p : Plan) : String := p.result.getD thisResult

end Plan

namespace Frame

variable (f : Frame)

/-- The columns of a row: those of the clauses and then the extra ones, each object that is made
replaced by its parts. If there are none, the row is the candidate. -/
def rowColumns (c : Clauses) (extra : List Expr) : List Expr :=
  let columns := c.columns ++ extra.flatMap Clauses.flatten
  if columns.isEmpty then [f.candidate.expr] else columns

/-- The word before columns whose equal rows are wanted once. -/
def distinctWord (distinct : Bool) : String := if distinct then "distinct " else ""

theorem isSource_expr (s : Source) : s.expr.isSource s = true := by
  simp [Expr.isSource, Source.expr, Source.path, Path.ofRoot, Path.isRoot]

/-- Columns that are not written are the candidate and nothing else. -/
theorem exists_rowColumns_eq {c : Clauses} {extra : List Expr}
    (h : ((c.addColumns extra).columns.isEmpty || f.isCandidate (c.addColumns extra).columns) =
      true) : ∃ x, f.rowColumns c extra = [x] ∧ x.isSource f.candidate = true := by
  change ((c.columns ++ extra.flatMap Clauses.flatten).isEmpty ||
    f.isCandidate (c.columns ++ extra.flatMap Clauses.flatten)) = true at h
  unfold rowColumns
  generalize c.columns ++ extra.flatMap Clauses.flatten = columns at h ⊢
  rcases columns with _ | ⟨x, _ | ⟨y, columns⟩⟩
  · exact ⟨_, rfl, isSource_expr f.candidate⟩
  · exact ⟨x, rfl, h⟩
  · cases h

theorem rowColumns_of_ne_nil {c : Clauses} {extra : List Expr}
    (h : (c.addColumns extra).columns.isEmpty = false) :
    f.rowColumns c extra = (c.addColumns extra).columns := by
  change (c.columns ++ extra.flatMap Clauses.flatten).isEmpty = false at h
  simp [rowColumns, h, Clauses.addColumns]

/-- Columns that are written are written one after another, with the same labels. -/
theorem columnsWriter_eq_ok {distinct : Bool} {columns : List Expr} {text : String} {b : Bindings}
    (h : f.columnsWriter distinct columns .empty = ⟨text, b, none⟩) :
    ∃ texts, (f.pass f.config.columnLabels).WritesAll .empty columns texts b ∧
      text = distinctWord distinct ++ ", ".intercalate texts := by
  unfold columnsWriter at h
  cases distinct with
  | false =>
    rw [if_neg Bool.false_ne_true] at h
    obtain ⟨texts, written, rfl⟩ := Pass.writeList_eq_ok h
    exact ⟨texts, written, String.empty_append.symm⟩
  | true =>
    rw [if_pos rfl] at h
    obtain ⟨_, _, list, hword, hlist, rfl⟩ := Writer.andThen_eq_ok h
    cases hword
    obtain ⟨texts, written, rfl⟩ := Pass.writeList_eq_ok hlist
    exact ⟨texts, written, rfl⟩

/-- The result is the text of the columns, whether it was written in full or not, and it adds their
labels to the parameters. -/
theorem result_writes_columns {c : Clauses} {extra : List Expr} {parameters merged : Bindings}
    {text : Option String}
    (h : f.result c (c.addColumns extra).columns parameters = .ok (text, merged)) :
    ∃ texts b, (f.pass f.config.columnLabels).WritesAll .empty (f.rowColumns c extra) texts b ∧
      text.getD Plan.thisResult = distinctWord c.distinct ++ ", ".intercalate texts ∧
      merged.entries = parameters.entries ++ b.entries := by
  obtain ⟨hcolumns, rfl, rfl⟩ | ⟨hcolumns, d, hd, rfl, hmerge⟩ := f.result_eq_ok h
  · obtain ⟨x, hx, hsource⟩ := f.exists_rowColumns_eq hcolumns
    rw [hx]
    refine ⟨["this"], .empty, .cons (Pass.write_of_isSource _ hsource _) (.nil _), ?_, ?_⟩
    · cases c.distinct <;> rfl
    · exact (List.append_nil _).symm
  · rw [← columnsWriter_eq_marks] at hd
    obtain ⟨texts, written, htext⟩ :=
      f.columnsWriter_eq_ok (Writer.clause_eq_ok (clause_eq_ok hd))
    rw [Bool.or_eq_false_iff] at hcolumns
    rw [f.rowColumns_of_ne_nil hcolumns.1]
    exact ⟨texts, d.bindings, written, htext, (mergeLabels_eq_ok hmerge).1⟩

end Frame

namespace Session

variable {σ η : Type}

/-- **The result of a plan with rows is the text of its columns.** The columns are those of the
clauses and the extra ones, or the candidate if there are none. They are written in order and with
the same labels, with commas between, and after `distinct` if equal rows are wanted once; a plan
without a result says `this`. What this adds to the parameters are these labels, and no more. -/
theorem result_writes_columns_of_plan {s : Session η} (hs : s.Coherent) {extra : List Expr}
    {mode : Mode} (hmode : mode ≠ .count) {plan : Plan} (h : (s.plan extra mode).1 = .ok plan) :
    ∃ f texts b, Frame.ofSources? s.config s.sources = some f ∧
      (f.pass s.config.columnLabels).WritesAll .empty (f.rowColumns s.clauses extra) texts b ∧
      plan.fullResult = Frame.distinctWord s.clauses.distinct ++ ", ".intercalate texts ∧
      plan.parameters.entries =
        f.filterParameters s.clauses ++ f.groupParameters s.clauses ++ b.entries := by
  rw [plan_eq_planOf hs] at h
  obtain ⟨f, filter, hf, hfilter, hassemble⟩ := planOf_eq_ok h
  obtain ⟨parameters, hgrouping, hshape, -⟩ := f.assemble_eq_ok hassemble
  obtain ⟨hcount, -⟩ | ⟨-, rows, hrows, hresult, -⟩ := f.shape_eq_ok hshape
  · exact absurd hcount hmode
  obtain ⟨texts, b, written, htext, entries⟩ := f.result_writes_columns hresult
  rw [Frame.config_of_ofSources? hf] at written
  refine ⟨f, texts, b, hf, written, ?_, ?_⟩
  · rw [Plan.fullResult, Plan.result, hrows]
    exact htext
  · rw [entries, (f.entries_of_grouping hgrouping).1, f.entries_of_filterClause hfilter]

/-- Distinct persons, each beside a year more. -/
def agingPersons : List Call :=
  let age := Expr.path ⟨"person", ["age"]⟩
  [.addSources [⟨"Person", "person"⟩], .distinct,
    .project [.construct "Pair" [age.add (.literal (.int 1)), .path ⟨"person", []⟩]]]

/-- The columns are written in full with another one, which has its own label, and are left out
where they are the persons themselves. -/
theorem result_writes_columns_agingPersons :
    let s := (run refusing agingPersons (new .default, ())).1
    let t := (run refusing (agingPersons.take 2) (new .default, ())).1
    let two := Expr.literal (.int 2)
    (∃ plan, ∃ f : Frame, ∃ texts b, (s.plan [two] (.list .all)).1 = .ok plan ∧
      (f.pass s.config.columnLabels).WritesAll .empty (f.rowColumns s.clauses [two]) texts b ∧
      plan.fullResult = "distinct " ++ ", ".intercalate texts ∧
      plan.fullResult = "distinct age + varp1, this, varp2") ∧
    ∃ plan, ∃ f : Frame, ∃ texts b, (t.plan [] .unique).1 = .ok plan ∧
      (f.pass t.config.columnLabels).WritesAll .empty (f.rowColumns t.clauses []) texts b ∧
      plan.fullResult = "distinct " ++ ", ".intercalate texts ∧
      plan.fullResult = "distinct this" := by
  intro s t two
  have hs : (s.plan [two] (.list .all)).1.toOption.bind (fun plan => some plan.fullResult) =
      some "distinct age + varp1, this, varp2" := by
    decide +kernel
  have ht : (t.plan [] .unique).1.toOption.bind (fun plan => some plan.fullResult) =
      some "distinct this" := by
    decide +kernel
  obtain ⟨plan, hplan, text⟩ := exists_of_toOption_bind hs
  obtain ⟨single, hsingle, this⟩ := exists_of_toOption_bind ht
  obtain ⟨f, texts, b, -, written, result, -⟩ := result_writes_columns_of_plan
    (coherent_run refusing .default agingPersons ()) (by rintro ⟨⟩) hplan
  obtain ⟨g, words, c, -, spelled, said, -⟩ := result_writes_columns_of_plan
    (coherent_run refusing .default (agingPersons.take 2) ()) (by rintro ⟨⟩) hsingle
  exact ⟨⟨plan, f, texts, b, hplan, written, result, Option.some.inj text⟩,
    single, g, words, c, hsingle, spelled, said, Option.some.inj this⟩

end Session

end StoreQuery
