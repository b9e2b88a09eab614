import StoreQuery.Proofs.Parameters.Texts

/-!
# Labels and the names of paths

A label stands in a text beside the names that paths begin with: the variable of another source,
`this`, or the first property of the candidate, which is written bare. Labels are kept apart from
variables, and `this` is no label, but no one keeps them apart from properties.

* `Frame.leadingName` is the name that a path begins with where it is written;
* `Session.labels_capture_no_name_iff` : **no label is such a name exactly if no property of the
  candidate that is written first is one of the labels declared**;
* `Session.label_captures_property` : `person.a > 1` is written as `a > a`.
-/

namespace StoreQuery

/-! ### Names that are no labels -/

theorem append_repr_ne_this (s : String) (n : Nat) : s ++ n.repr ≠ "this" := by
  intro h
  have chars : s.toList ++ n.repr.toList = ['t', 'h', 'i', 's'] := by
    rw [← String.toList_append, h]
    rfl
  -- The last character of a number is a digit.
  have last : n.repr.toList.getLast? = some 's' := by
    have nonempty : n.repr.toList ≠ [] := by simp
    have := congrArg List.getLast? chars
    rwa [List.getLast?_append_of_ne_nil _ nonempty] at this
  have digit := LabelScheme.isDigit_of_mem_repr (List.mem_of_getLast? last)
  exact absurd digit (by decide)

theorem LabelScheme.label_ne_this (scheme : LabelScheme) (n : Nat) : scheme.label n ≠ "this" := by
  match scheme with
  | .alphabetic =>
    rw [label]
    split
    · intro h
      have := congrArg (fun s => s.toList.length) h
      simp [letter_toList] at this
    · exact append_repr_ne_this _ _
  | .numbered word => exact append_repr_ne_this _ _

namespace Frame

variable (f : Frame)

/-- `this` is no label. -/
theorem label_ne_this {c : Clauses} {columns : List Expr} {mode : Mode} {b : Binding}
    (h : b ∈ f.parameters c columns mode) : b.label ≠ "this" := by
  obtain ⟨scheme, -, n, hn⟩ := f.exists_label_of_mem_parameters h
  rw [← hn]
  exact scheme.label_ne_this n

/-! ### Paths that are written -/

/-- The paths that the texts of a plan hold. -/
def paths (c : Clauses) (columns : List Expr) (mode : Mode) : List Path :=
  (f.marks c columns mode).flatten.filterMap fun m => m.leaf?.bind Leaf.path?

/-- The name that a path begins with where it is written. -/
def leadingName (q : Path) : String :=
  if q.root = f.candidate.var then q.segments.head?.getD "this" else q.root

/-- A path is written as the name that it begins with, and then its other properties. -/
theorem pathText_eq_leadingName (q : Path) : ∃ rest : List String,
    f.plainPass.pathText q = ".".intercalate (f.leadingName q :: rest) := by
  unfold leadingName
  by_cases hroot : q.root = f.candidate.var
  · have text : f.plainPass.pathText q =
        if q.isRoot then "this" else ".".intercalate q.segments := if_neg (not_not_intro hroot)
    rw [text, if_pos hroot, Path.isRoot]
    cases q.segments with
    | nil => exact ⟨[], rfl⟩
    | cons name rest => exact ⟨rest, rfl⟩
  · have text : f.plainPass.pathText q = q.text := if_pos hroot
    rw [text, if_neg hroot]
    exact ⟨q.segments, rfl⟩

theorem leadingName_of_candidate {q : Path} (h : q.root = f.candidate.var) :
    f.leadingName q = q.segments.head?.getD "this" := if_pos h

theorem leadingName_of_other {q : Path} (h : q.root ≠ f.candidate.var) :
    f.leadingName q = q.root := if_neg h

end Frame

namespace Session

variable {σ η : Type} (e : Engine σ η)

/-- **No label is a name that a path begins with, exactly if no property of the candidate that is
written first is a label.** The paths are those that the texts of the plan hold, and the labels are
those that the clauses declare. -/
theorem labels_capture_no_name_iff (config : Config) (calls : List Call) (state : σ)
    (extra : List Expr) (mode : Mode) {plan : Plan}
    (h : ((run e calls (new config, state)).1.plan extra mode).1 = .ok plan) :
    ∃ f, Frame.ofSources? config (run e calls (new config, state)).1.sources = some f ∧
      let c := (run e calls (new config, state)).1.clauses
      let columns := (c.addColumns extra).columns
      List.Forall₂ (f.Spells plan.parameters) (f.marks c columns mode) plan.texts ∧
      ((∀ q ∈ f.paths c columns mode, q.root ∈ f.vars →
          f.leadingName q ∉ plan.parameters.labels) ↔
        ∀ q ∈ f.paths c columns mode, q.root = f.candidate.var →
          ∀ name, q.segments.head? = some name →
            name ∉ (f.parameters c columns mode).map (·.label)) := by
  rw [plan_run] at h
  obtain ⟨f, filter, hf, hfilter, hassemble⟩ := planOf_eq_ok h
  have labels := congrArg (List.map fun b : Binding => b.label)
    (f.parameters_of_assemble hfilter hassemble).1
  refine ⟨f, hf, Frame.spells_of_assemble hfilter hassemble, ?_⟩
  rw [Bindings.labels, labels]
  constructor
  · intro free q hq hroot name hname
    have := free q hq (by simp [Frame.vars, hroot])
    rwa [f.leadingName_of_candidate hroot, hname] at this
  · intro free q hq hvar hmem
    -- Labels avoid the variables, and none is `this`: only a property is left.
    obtain ⟨b, hb, hlabel⟩ := List.mem_map.1 hmem
    by_cases hroot : q.root = f.candidate.var
    · rw [f.leadingName_of_candidate hroot] at hmem hlabel
      cases hname : q.segments.head? with
      | none =>
        rw [hname] at hlabel
        exact f.label_ne_this hb hlabel
      | some name =>
        rw [hname] at hmem
        exact free q hq hroot name hname hmem
    · rw [f.leadingName_of_other hroot] at hlabel
      exact f.label_not_mem_vars hb (hlabel ▸ hvar)

theorem labels_capture_no_name_census :
    ∃ plan f, ((run refusing census (new Config.default, ())).1.plan [] .unique).1 = .ok plan ∧
      Frame.ofSources? .default (run refusing census (new Config.default, ())).1.sources = some f ∧
      ∀ q ∈ f.paths (run refusing census (new Config.default, ())).1.clauses
          ((run refusing census (new Config.default, ())).1.clauses.addColumns []).columns .unique,
        q.root ∈ f.vars → f.leadingName q ∉ plan.parameters.labels := by
  obtain ⟨plan, h, -⟩ := exists_of_toOption_bind declaration_census
  obtain ⟨f, hf, -, free⟩ := labels_capture_no_name_iff refusing .default census () [] .unique h
  refine ⟨plan, f, h, hf, free.2 ?_⟩
  intro q hq hroot name hname
  obtain rfl : ⟨.default, ⟨"Person", "person"⟩, [⟨"Dog", "a"⟩]⟩ = f := Option.some.inj hf
  have paths : Frame.paths ⟨.default, ⟨"Person", "person"⟩, [⟨"Dog", "a"⟩]⟩
      (run refusing census (new Config.default, ())).1.clauses
      ((run refusing census (new Config.default, ())).1.clauses.addColumns []).columns .unique =
        List.replicate 6 ⟨"person", ["age"]⟩ := by
    decide +kernel
  have labels : (Frame.parameters ⟨.default, ⟨"Person", "person"⟩, [⟨"Dog", "a"⟩]⟩
      (run refusing census (new Config.default, ())).1.clauses
      ((run refusing census (new Config.default, ())).1.clauses.addColumns []).columns .unique).map
        (·.label) = ["b", "c", "varg1", "varp1"] := by
    decide +kernel
  rw [paths] at hq
  rw [List.eq_of_mem_replicate hq] at hname
  obtain rfl : "age" = name := Option.some.inj hname
  rw [labels]
  decide

/-! ### A property that is captured -/

/-- The number of persons whose `a` is greater than one. -/
def capturing : List Call :=
  [.addSources [⟨"Person", "person"⟩],
    .addFilter ((Expr.path ⟨"person", ["a"]⟩).gt (.literal (.int 1)))]

theorem plan_capturing :
    ((run refusing capturing (new Config.default, ())).1.plan [] .count).1.toOption.bind
      (fun plan => some (plan.filter, plan.parameters.labels)) = some (some "a > a", ["a"]) := by
  decide +kernel

/-- The property is compared with itself: its name is the label, too. -/
theorem label_captures_property :
    ∃ plan f, ((run refusing capturing (new Config.default, ())).1.plan [] .count).1 = .ok plan ∧
      Frame.ofSources? .default (run refusing capturing (new Config.default, ())).1.sources =
        some f ∧
      plan.filter = some "a > a" ∧
      ∃ q ∈ f.paths (run refusing capturing (new Config.default, ())).1.clauses [] .count,
        q.root ∈ f.vars ∧ f.leadingName q ∈ plan.parameters.labels := by
  obtain ⟨plan, h, hplan⟩ := exists_of_toOption_bind plan_capturing
  obtain ⟨filter, labels⟩ := Prod.mk.inj (Option.some.inj hplan)
  refine ⟨plan, ⟨.default, ⟨"Person", "person"⟩, []⟩, h, rfl, filter, ⟨"person", ["a"]⟩, ?_, ?_, ?_⟩
  · decide +kernel
  · decide
  · rw [labels]
    decide

end Session

end StoreQuery
