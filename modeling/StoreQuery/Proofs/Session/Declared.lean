import StoreQuery.Proofs.Recorder.Isolation
import StoreQuery.Proofs.Session.Recorded

/-!
# Declared parameters are read back

The parameters of a plan are declared in one text. A recorder splits it at the commas to see how
many there are; split once more, at the first blank of each piece, it gives back the classes and the
labels. So a recorder never finds a number of values that it does not expect.

* `Bindings.Decodes` : the declaration gives back the class and the label of every parameter;
* `Record.RunOnce` : the query was run, with as many values as it declares parameters;
* `Session.runOnce_step`, `Session.runOnce_run` : every record that calls add is of this kind;
* `Session.declared_parameters_decode` : **declarations are read back and never misaligned.**
-/

namespace StoreQuery

/-! ### Reading a declaration -/

/-- The two sides of the first blank. -/
def splitBlank : List Char → Option (List Char × List Char)
  | [] => none
  | ' ' :: cs => some ([], cs)
  | c :: cs => (splitBlank cs).map fun sides => (c :: sides.1, sides.2)

theorem splitBlank_append {cs : List Char} (h : ' ' ∉ cs) (rest : List Char) :
    splitBlank (cs ++ ' ' :: rest) = some (cs, rest) := by
  induction cs with
  | nil => rfl
  | cons c cs ih =>
    rw [List.mem_cons, not_or] at h
    rw [List.cons_append, splitBlank, ih h.2]
    · rfl
    · exact Ne.symm h.1

theorem Value.blank_not_mem_className (v : Value) : ' ' ∉ v.className.toList := by
  cases v <;> simp [Value.className]

namespace Bindings

theorem splitBlank_declare (e : Binding) :
    splitBlank (declare e).toList = some (e.value.className.toList, e.label.toList) := by
  rw [declare, String.toList_append, String.toList_append, List.append_assoc]
  exact splitBlank_append e.value.blank_not_mem_className _

/-- The declaration gives back what it was written from. -/
structure Decodes (b : Bindings) : Prop where
  /-- There is none only where there are no parameters. -/
  absent : b.declaration = none ↔ b.entries = []
  /-- There is one piece for each parameter, in order. The two sides of its first blank are the
  class of the value and the label. -/
  pieces : ∀ text, b.declaration = some text →
    (Record.pieces text.toList).map splitBlank =
      b.entries.map fun e => some (e.value.className.toList, e.label.toList)

theorem decodes {b : Bindings}
    (h : ∀ e ∈ b.entries, ∀ c ∈ e.label.toList, isWordChar c = true) : b.Decodes where
  absent := by simp [declaration]
  pieces := by
    intro text htext
    rw [pieces_declaration h htext, List.map_map]
    exact List.map_congr_left fun e _ => splitBlank_declare e

end Bindings

theorem planOf_decodes {config : Config} (hconfig : config.Obtainable) {sources : List Source}
    {c : Clauses} {extra : List Expr} {mode : Mode} {plan : Plan}
    (h : planOf config sources c extra mode = .ok plan) : plan.parameters.Decodes :=
  Bindings.decodes fun _ he _ hch => isWordChar_of_mem_parameters hconfig h he hch

/-! ### Records of runs -/

/-- The query was run once, and with as many values as it declares parameters. A run that is refused
would not be counted. -/
structure Record.RunOnce (record : Record) : Prop where
  /-- There was one run. -/
  executions : record.executions = 1
  /-- It was aligned. -/
  aligned : record.Aligned record.bound

theorem Plan.runOnce_record {plan : Plan}
    (h : plan.record.declaredCount = plan.parameters.values.length) : plan.record.RunOnce where
  executions := rfl
  aligned := by
    refine Eq.trans h ?_
    simp only [record]
    cases plan.parameters.values <;> rfl

namespace Recorder

/-- Every record from the start on is of a query that was run once. -/
def RunOnceFrom (start : Nat) (r : Recorder) : Prop :=
  ∀ h record, start ≤ h → r.records[h]? = some record → record.RunOnce

namespace RunOnceFrom

variable {start : Nat} {r : Recorder}

theorem append (hr : RunOnceFrom start r) {record : Record} (hrecord : record.RunOnce)
    (script : List Scripted) : RunOnceFrom start ⟨r.records ++ [record], script⟩ := by
  intro h record' hstart hget
  rcases Nat.lt_or_ge h r.records.length with hlt | hge
  · rw [List.getElem?_append_left hlt] at hget
    exact hr h record' hstart hget
  · rw [List.getElem?_append_right hge] at hget
    obtain rfl := List.mem_singleton.1 (List.mem_of_getElem? hget)
    exact hrecord

/-- A release is noted beside the run. -/
theorem release (hr : RunOnceFrom start r) (handle : Nat) :
    RunOnceFrom start (engine.release handle r) := by
  intro h record hstart hget
  simp only [engine, update, List.getElem?_modify] at hget
  obtain ⟨before, hbefore, rfl⟩ := Option.map_eq_some_iff.1 hget
  obtain ⟨executions, aligned⟩ := hr h before hstart hbefore
  split <;> exact ⟨executions, aligned⟩

theorem releaseAll (hr : RunOnceFrom start r) (handles : Registry Nat) :
    RunOnceFrom start (handles.releaseAll engine r).2 := by
  rcases handles with ⟨handles⟩
  simp only [Registry.releaseAll]
  induction handles generalizing r with
  | nil => exact hr
  | cons handle handles ih => exact ih (hr.release handle)

end RunOnceFrom

end Recorder

namespace Session

variable {s : Session Nat} {r : Recorder} {start : Nat}

theorem Follows.runOnceFrom {α : Type} {planned : Except QueryError Plan}
    {read : Output → Except QueryError α} {answer : Answer Recorder Nat α}
    (h : Follows planned read s r answer)
    (hplanned : ∀ plan, planned = .ok plan → plan.record.RunOnce)
    (hr : r.RunOnceFrom start) : answer.2.2.RunOnceFrom start := by
  cases hplan : planned with
  | error cause =>
    rw [(h.refused cause hplan).2.2]
    exact hr
  | ok plan =>
    rw [(h.executed plan hplan).2.2]
    exact hr.append (hplanned plan hplan) _

theorem PageFollows.runOnceFrom {x : Expr} {answer : Answer Recorder Nat (Page Value)}
    (h : PageFollows s r x answer)
    (hplanned : ∀ extra mode plan, (s.plan extra mode).1 = .ok plan → plan.record.RunOnce)
    (hr : r.RunOnceFrom start) : answer.2.2.RunOnceFrom start := by
  cases h with
  | uncounted counted => exact counted.runOnceFrom (hplanned _ _) hr
  | nothing counted => exact counted.runOnceFrom (hplanned _ _) hr
  | unlisted counted _ unlisted =>
    exact unlisted.runOnceFrom (hplanned _ _) (counted.runOnceFrom (hplanned _ _) hr)
  | listed counted _ planned _ listed =>
    refine listed.runOnceFrom ?_ (counted.runOnceFrom (hplanned _ _) hr)
    rintro _ ⟨⟩
    exact hplanned _ _ _ planned

/-- Whatever is planned would be run once. -/
theorem runOnce_of_plan (hconfig : s.config.Obtainable) (hs : s.Coherent) (extra : List Expr)
    (mode : Mode) (plan : Plan) (h : (s.plan extra mode).1 = .ok plan) : plan.record.RunOnce := by
  rw [plan_eq_planOf hs] at h
  exact Plan.runOnce_record (planOf_aligned hconfig h rfl)

/-- A call adds records of queries that were run once. -/
theorem runOnce_step (hconfig : s.config.Obtainable) (hs : s.Coherent) (hr : r.RunOnceFrom start)
    (call : Call) : (step Recorder.engine (s, r) call).2.RunOnceFrom start := by
  have asked {α : Type} (extra : List Expr) (mode : Mode) (read : Output → Except QueryError α) :
      (s.ask Recorder.engine r extra mode read).2.2.RunOnceFrom start :=
    (follows_ask hconfig hs r extra mode read).runOnceFrom (runOnce_of_plan hconfig hs extra mode)
      hr
  cases call with
  | count => exact asked _ _ _
  | list x => exact asked _ _ _
  | listMany xs => exact asked _ _ _
  | uniqueResult x => exact asked _ _ _
  | page x => exact (pageFollows_page hconfig hs r x).runOnceFrom (runOnce_of_plan hconfig hs) hr
  | close => exact hr.releaseAll s.handles
  | having x =>
    simp only [step]
    cases s.having x <;> exact hr
  | _ => exact hr

theorem runOnce_run (hconfig : s.config.Obtainable) (hs : s.Coherent) (hr : r.RunOnceFrom start)
    (calls : List Call) : (run Recorder.engine calls (s, r)).2.RunOnceFrom start := by
  induction calls generalizing s r with
  | nil => exact hr
  | cons call calls ih =>
    obtain ⟨config, -, -, coherent⟩ := step_spec Recorder.engine s r call
    exact ih (config ▸ hconfig) (coherent hs) (runOnce_step hconfig hs hr call)

/-- **Declarations are read back and never misaligned.** Take any calls, and any engine. Of whatever
is planned after them, the declared parameters give back the classes of the values and the labels,
in order, and a recorder counts as many of them as there are values. So its answer comes from the
script; and if the calls are made with a recorder, every record they add is of a query that was run
once, with as many values as it declares parameters. -/
theorem declared_parameters_decode {σ η : Type} (e : Engine σ η) {config : Config}
    (hconfig : config.Obtainable) (calls : List Call) (state : σ) (r : Recorder) :
    (∀ extra mode plan, ((run e calls (new config, state)).1.plan extra mode).1 = .ok plan →
      plan.parameters.Decodes ∧
      (∀ record : Record, record.parameters = plan.parameters.declaration →
        record.declaredCount = plan.parameters.values.length) ∧
      ∀ (s : Session Nat) (r' : Recorder), (s.execute Recorder.engine r' plan).1 =
        (r'.take plan.isUnique).1.mapError .engine) ∧
    (run Recorder.engine calls (new config, r)).2.RunOnceFrom r.records.length := by
  constructor
  · intro extra mode plan h
    rw [plan_run] at h
    have aligned {record : Record} := planOf_aligned hconfig h (r := record)
    refine ⟨planOf_decodes hconfig h, fun record hrecord => aligned hrecord, ?_⟩
    intro s r'
    rw [execute_recorder s r' (aligned rfl)]
  · refine runOnce_run hconfig (coherent_of_filter_none rfl) ?_ calls
    intro h record hstart hget
    rw [List.getElem?_eq_none hstart] at hget
    cases hget

/-! Four parameters of three clauses -/

/-- A mark for the persons of a name above an age, by age. -/
def marked : List Call :=
  let age := Expr.path ⟨"person", ["age"]⟩
  [.addSources [⟨"Person", "person"⟩], .addFilter (age.gt (.literal (.int 17))),
    .addFilter ((Expr.path ⟨"person", ["name"]⟩).eq (.literal (.string "Ada"))),
    .groupBy [age], .having (age.count.gt (.literal (.long 1))),
    .listMany [.literal (.bool true)]]

theorem plan_marked :
    ((run refusing marked (new renamed, ())).1.plan [.literal (.bool true)] .unique).1.toOption.bind
      (·.parameters.declaration) = some "Integer a, String b, Long grp1, Boolean col1" := by
  decide +kernel

theorem declared_parameters_decode_marked :
    ∃ plan, ((run refusing marked (new renamed, ())).1.plan [.literal (.bool true)] .unique).1 =
        .ok plan ∧
      plan.parameters.declaration = some "Integer a, String b, Long grp1, Boolean col1" ∧
      plan.parameters.Decodes ∧
      (run Recorder.engine marked (new renamed, scripted)).2.records.length = 1 ∧
      (run Recorder.engine marked (new renamed, scripted)).2.RunOnceFrom 0 := by
  obtain ⟨plan, h, declaration⟩ := exists_of_toOption_bind plan_marked
  have obtainable : renamed.Obtainable :=
    .withWords .default (rfl : Config.default.withWords "grp" "col" = .ok renamed)
  obtain ⟨decoded, runOnce⟩ := declared_parameters_decode refusing obtainable marked () scripted
  exact ⟨plan, h, declaration, (decoded _ _ plan h).1, by decide +kernel, runOnce⟩

end Session

end StoreQuery
