import StoreQuery.Proofs.Parameters.Alignment

/-!
# Conditions on groups

A condition on groups is refused as long as there are no groups. Once it is taken it stays beside
those that are there until all clauses are dropped, and every plan writes it after the groups.

* `Grouping.of` : what a list of calls asks for, read off the calls alone;
* `Pass.WritesAll` : expressions that are written one after another with the same labels;
* `Session.KeepsGrouping` : a session has what was asked for, and its plans say so;
* `Session.conditions_kept_with_groups` : **so it is after every run.**
-/

namespace StoreQuery

/-! ### What a caller asks for -/

/-- All conditions together, the first one innermost. -/
def Expr.conjunction : List Expr → Option Expr
  | [] => none
  | x :: xs => some (xs.foldl Expr.and x)

theorem Expr.conjunction_snoc (xs : List Expr) (x : Expr) :
    conjunction (xs ++ [x]) = some (Clauses.conjoin (conjunction xs) x) := by
  cases xs with
  | nil => rfl
  | cons y ys => simp [conjunction, Clauses.conjoin]

/-- What the groups are made by, and the conditions on them that were taken. -/
structure Grouping where
  /-- The expressions to group by. -/
  groups : List Expr
  /-- The conditions. -/
  conditions : List Expr

namespace Grouping

/-- Nothing is asked for. -/
def empty : Grouping := ⟨[], []⟩

/-- A call adds groups, adds a condition if there are groups, or drops all. -/
def after (g : Grouping) : Call → Grouping
  | .groupBy xs => { g with groups := g.groups ++ xs }
  | .having x => if g.groups.isEmpty then g else { g with conditions := g.conditions ++ [x] }
  | .clear => empty
  | _ => g

/-- What calls ask for, one after another. -/
def of (calls : List Call) : Grouping := calls.foldl after empty

end Grouping

/-- The clauses have the groups and the conditions. -/
def Clauses.Groups (c : Clauses) (g : Grouping) : Prop :=
  c.groupBy = g.groups ∧ c.having = Expr.conjunction g.conditions

theorem Clauses.Groups.after {c : Clauses} {g : Grouping} (h : c.Groups g) (call : Call) :
    (call.clausesAfter c).Groups (g.after call) := by
  obtain ⟨hgroups, hhaving⟩ := h
  cases call with
  | groupBy xs => exact ⟨congrArg (· ++ xs) hgroups, hhaving⟩
  | having x =>
    rw [Call.clausesAfter, addHaving, hgroups, Grouping.after]
    split
    · exact ⟨hgroups, hhaving⟩
    · refine ⟨rfl, ?_⟩
      rw [Expr.conjunction_snoc, ← hhaving]
      rfl
  | clear => exact ⟨rfl, rfl⟩
  | _ => exact ⟨hgroups, hhaving⟩

theorem Clauses.Groups.afterAll {c : Clauses} {g : Grouping} (h : c.Groups g)
    (calls : List Call) : (calls.foldl Call.clausesAfter c).Groups (calls.foldl .after g) := by
  induction calls generalizing c g with
  | nil => exact h
  | cons call calls ih => exact ih (h.after call)

/-! ### Writing with the same labels -/

namespace Writer

/-- Of steps that went well the second went on with the labels of the first. -/
theorem andThen_eq_ok {first second : Writer} {b b' : Bindings} {text : String}
    (h : first.andThen second b = ⟨text, b', none⟩) :
    ∃ t c u, first b = ⟨t, c, none⟩ ∧ second c = ⟨u, b', none⟩ ∧ text = t ++ u := by
  rcases hfirst : first b with ⟨t, c, _ | cause⟩
  · rcases hsecond : second c with ⟨u, d, error?⟩
    simp only [andThen, hfirst, hsecond, Written.mk.injEq] at h
    obtain ⟨rfl, rfl, rfl⟩ := h
    exact ⟨t, c, u, rfl, hsecond, rfl⟩
  · simp [andThen, hfirst] at h

end Writer

namespace Pass

variable (p : Pass)

/-- The expressions are written one after another, each with the labels that are there after the
ones before it, and these are their texts. -/
inductive WritesAll : Bindings → List Expr → List String → Bindings → Prop where
  | nil (b : Bindings) : WritesAll b [] [] b
  | cons {b c d : Bindings} {x : Expr} {xs : List Expr} {text : String} {texts : List String}
      (head : p.write x b = ⟨text, c, none⟩) (tail : WritesAll c xs texts d) :
      WritesAll b (x :: xs) (text :: texts) d

variable {p}

theorem writeList_eq_ok {separator : String} {xs : List Expr} {b c : Bindings} {text : String}
    (h : p.writeList separator xs b = ⟨text, c, none⟩) :
    ∃ texts, p.WritesAll b xs texts c ∧ text = separator.intercalate texts := by
  induction xs generalizing b text with
  | nil =>
    cases h
    exact ⟨[], .nil _, String.intercalate_nil.symm⟩
  | cons x xs ih =>
    cases xs with
    | nil => exact ⟨[text], .cons h (.nil c), String.intercalate_singleton.symm⟩
    | cons y ys =>
      obtain ⟨head, d, rest, hhead, hrest, rfl⟩ := Writer.andThen_eq_ok h
      obtain ⟨_, _, tail, hseparator, htail, rfl⟩ := Writer.andThen_eq_ok hrest
      cases hseparator
      obtain ⟨texts, written, rfl⟩ := ih htail
      refine ⟨head :: texts, .cons hhead written, ?_⟩
      cases written with
      | cons => rw [String.intercalate_cons_cons, String.append_assoc]

end Pass

namespace Frame

variable (f : Frame)

/-- The text of groups with a condition on them: both are written with the same labels. -/
theorem grouping_eq_ok_of_having {c : Clauses} {parameters merged : Bindings}
    {grouping : Option String} {x : Expr} (hgroups : c.groupBy ≠ []) (hx : c.having = some x)
    (h : f.grouping c parameters = .ok (grouping, merged)) :
    ∃ texts shared text final,
      (f.pass f.config.groupLabels).WritesAll .empty c.groupBy texts shared ∧
      (f.pass f.config.groupLabels).write x shared = ⟨text, final, none⟩ ∧
      grouping = some (", ".intercalate texts ++ " having " ++ text) ∧
      merged.entries = parameters.entries ++ final.entries := by
  obtain ⟨hempty, -⟩ | ⟨-, d, hd, rfl, hmerge⟩ := f.grouping_eq_ok h
  · exact absurd (List.isEmpty_iff.1 hempty) hgroups
  · rw [← f.groupingWriter_eq_marks, groupingWriter, hx] at hd
    obtain ⟨groups, shared, rest, hlist, hrest, htext⟩ :=
      Writer.andThen_eq_ok (Writer.clause_eq_ok (clause_eq_ok hd))
    obtain ⟨_, _, text, hword, hwrite, rfl⟩ := Writer.andThen_eq_ok hrest
    cases hword
    obtain ⟨texts, written, rfl⟩ := Pass.writeList_eq_ok hlist
    refine ⟨texts, shared, text, d.bindings, written, hwrite, ?_, (mergeLabels_eq_ok hmerge).1⟩
    rw [htext, String.append_assoc]

end Frame

/-! ### Runs -/

namespace Session

variable {σ η : Type} (e : Engine σ η)

/-- A condition on groups is refused exactly if there are none, and for this reason. -/
theorem having_eq_error_iff {s : Session η} {x : Expr} {cause : QueryError} :
    s.having x = .error cause ↔ s.clauses.groupBy = [] ∧ cause = .havingWithoutGrouping := by
  unfold having Clauses.addHaving
  by_cases h : s.clauses.groupBy = []
  · simp [h, Except.map, eq_comm]
  · simp [h, Except.map]

theorem exists_having_eq_ok {s : Session η} (h : s.clauses.groupBy ≠ []) (x : Expr) :
    ∃ t, s.having x = .ok t := by
  cases hx : s.having x with
  | ok t => exact ⟨t, rfl⟩
  | error cause => exact absurd (having_eq_error_iff.1 hx).1 h

/-- A session has the groups and the conditions that were asked for, and its plans say so. -/
structure KeepsGrouping (s : Session η) (g : Grouping) : Prop where
  /-- The groups are those that were asked for. -/
  groupBy : s.clauses.groupBy = g.groups
  /-- The condition is that of all conditions together. -/
  having : s.clauses.having = Expr.conjunction g.conditions
  /-- There is no condition without groups. -/
  anchored : s.clauses.having ≠ none → s.clauses.groupBy ≠ []
  /-- A condition is refused exactly if there are no groups. -/
  refused_iff : ∀ x, (∃ cause, s.having x = .error cause ∧ cause.code = "InvalidMetadata") ↔
    s.clauses.groupBy = []
  /-- It is taken in every other case. -/
  taken : s.clauses.groupBy ≠ [] → ∀ x, ∃ t, s.having x = .ok t
  /-- Where there is a condition, every plan has the groups and after them the condition, written
  with the same labels. The labels are parameters of the plan. -/
  written : ∀ x, s.clauses.having = some x → ∀ extra mode plan,
    (s.plan extra mode).1 = .ok plan →
    ∃ f texts shared text final, Frame.ofSources? s.config s.sources = some f ∧
      (f.pass s.config.groupLabels).WritesAll .empty s.clauses.groupBy texts shared ∧
      (f.pass s.config.groupLabels).write x shared = ⟨text, final, none⟩ ∧
      plan.grouping = some (", ".intercalate texts ++ " having " ++ text) ∧
      plan.parameters.entries = f.filterParameters s.clauses ++ final.entries ++
        f.columnParameters (s.clauses.addColumns extra).columns mode

theorem written_of_plan {s : Session η} (hs : s.Coherent) (grouped : s.clauses.Grouped) {x : Expr}
    (hx : s.clauses.having = some x) {extra : List Expr} {mode : Mode} {plan : Plan}
    (h : (s.plan extra mode).1 = .ok plan) :
    ∃ f texts shared text final, Frame.ofSources? s.config s.sources = some f ∧
      (f.pass s.config.groupLabels).WritesAll .empty s.clauses.groupBy texts shared ∧
      (f.pass s.config.groupLabels).write x shared = ⟨text, final, none⟩ ∧
      plan.grouping = some (", ".intercalate texts ++ " having " ++ text) ∧
      plan.parameters.entries = f.filterParameters s.clauses ++ final.entries ++
        f.columnParameters (s.clauses.addColumns extra).columns mode := by
  rw [plan_eq_planOf hs] at h
  obtain ⟨f, filter, hf, hfilter, hassemble⟩ := planOf_eq_ok h
  obtain ⟨parameters, hgrouping, hshape, -⟩ := f.assemble_eq_ok hassemble
  obtain ⟨texts, shared, text, final, hgroups, hcondition, hgrouping, entries⟩ :=
    f.grouping_eq_ok_of_having (grouped (by simp [hx])) hx hgrouping
  rw [Frame.config_of_ofSources? hf] at hgroups hcondition
  refine ⟨f, texts, shared, text, final, hf, hgroups, hcondition, hgrouping, ?_⟩
  rw [(f.entries_of_shape hshape).1, entries, f.entries_of_filterClause hfilter]

/-- **A condition on groups is neither orphaned nor dropped.** After every run the session has the
groups and the conditions that its calls asked for, there is no condition without groups, and every
plan writes both with the same labels. A condition that is refused leaves all as it was. -/
theorem conditions_kept_with_groups (config : Config) (calls : List Call) (state : σ) :
    (run e calls (new config, state)).1.KeepsGrouping (.of calls) ∧
    ∀ x cause, (run e calls (new config, state)).1.having x = .error cause →
      cause.code = "InvalidMetadata" ∧
      run e (calls ++ [.having x]) (new config, state) = run e calls (new config, state) := by
  have coherent := coherent_run e config calls state
  have grouped := grouped_run e config calls state
  -- What engines answer has no part in the clauses: they follow from the calls alone.
  obtain ⟨hgroups, hhaving⟩ : (run e calls (new config, state)).1.clauses.Groups (.of calls) := by
    rw [(run_spec e calls (new config) state).2.2.1]
    exact Clauses.Groups.afterAll ⟨rfl, rfl⟩ calls
  refine ⟨?_, ?_⟩
  · exact {
      groupBy := hgroups
      having := hhaving
      anchored := grouped
      refused_iff := by
        intro x
        constructor
        · rintro ⟨cause, h, -⟩
          exact (having_eq_error_iff.1 h).1
        · intro h
          exact ⟨_, having_eq_error_iff.2 ⟨h, rfl⟩, rfl⟩
      taken := exists_having_eq_ok
      written := fun x hx _ _ _ => written_of_plan coherent grouped hx }
  · intro x cause h
    obtain ⟨-, rfl⟩ := having_eq_error_iff.1 h
    refine ⟨rfl, ?_⟩
    rw [run_snoc]
    simp only [step, h]

/-- Persons of some age and a year more, if there are several. The first condition on groups is
refused, the second one is dropped with its groups, and the others are taken. -/
def ageGroups : List Call :=
  let age := Expr.path ⟨"person", ["age"]⟩
  let one := Expr.literal (.int 1)
  [.addSources [⟨"Person", "person"⟩], .having (age.gt one), .groupBy [one], .having (age.lt one),
    .clear, .groupBy [age.add one, age], .having (age.count.gt one), .groupBy [],
    .having (age.ne (.literal (.int 2)))]

theorem conditions_kept_with_groups_ageGroups :
    let s := (run refusing ageGroups (new .default, ())).1
    s.KeepsGrouping (.of ageGroups) ∧ (Grouping.of ageGroups).conditions.length = 2 ∧
      (∃ plan, (s.plan [] .count).1 = .ok plan ∧
        (plan.grouping, plan.parameters.labels) =
          (some "age + varg1, age having count(age) > varg1 && age != varg2",
            ["varg1", "varg2"])) ∧
      run refusing (ageGroups.take 5 ++ [.having (.literal .null)]) (new .default, ()) =
        run refusing (ageGroups.take 5) (new .default, ()) := by
  have kept := (conditions_kept_with_groups refusing .default ageGroups ()).1
  have unchanged := (conditions_kept_with_groups refusing .default (ageGroups.take 5) ()).2
  have planned : ((run refusing ageGroups (new .default, ())).1.plan [] .count).1.toOption.bind
      (fun plan => some (plan.grouping, plan.parameters.labels)) =
        some (some "age + varg1, age having count(age) > varg1 && age != varg2",
          ["varg1", "varg2"]) := by
    decide +kernel
  obtain ⟨plan, hplan, texts⟩ := exists_of_toOption_bind planned
  refine ⟨kept, rfl, ⟨plan, hplan, Option.some.inj texts⟩, ?_⟩
  exact (unchanged (.literal .null) .havingWithoutGrouping (having_eq_error_iff.2 ⟨rfl, rfl⟩)).2

end Session

end StoreQuery
