import StoreQuery.Proofs.Clause.Renaming
import StoreQuery.Proofs.Parameters.Alignment
import StoreQuery.Proofs.Parameters.Families

/-!
# Plans with another name for the candidate

The candidate's name is chosen by the caller and stands in no text of a plan. With another name that
no path has, and if neither name is a label, the query fails alike or has the same plan.

* `Config.IsLabel` : what some clause can give as a label;
* `Frame.assemble_rename`, `planOf_rename` : the plan is the same;
* `Session.plan_rename_candidate` : **a session in which the candidate is renamed plans the same.**
-/

namespace StoreQuery

/-! ### Names that are labels -/

/-- Some clause can give the name as a label. -/
def Config.IsLabel (config : Config) (name : String) : Prop :=
  ∃ scheme ∈ config.schemes, ∃ n, scheme.label n = name

theorem Config.isLabel_iff {config : Config} {name : String} : config.IsLabel name ↔
    (LabelScheme.looksAlphabetic name || LabelScheme.isContinued config.groupWord name ||
      LabelScheme.isContinued config.columnWord name) = true := by
  simp only [IsLabel, schemes, List.mem_cons, List.not_mem_nil, or_false, exists_eq_or_imp,
    exists_eq_left, filterLabels, groupLabels, columnLabels, Bool.or_eq_true, or_assoc,
    LabelScheme.exists_label_alphabetic_iff, LabelScheme.exists_label_numbered_iff]

instance (config : Config) : DecidablePred config.IsLabel := fun _ =>
  decidable_of_iff _ Config.isLabel_iff.symm

namespace Frame

/-! ### Parts of a plan -/

/-- Another name for the candidate. -/
def rename (f : Frame) (new : String) : Frame :=
  { f with candidate := { f.candidate with var := new } }

variable {f : Frame} {new : String} {c : Clauses} {columns : List Expr}

theorem renames_pass (hold : ¬ f.config.IsLabel f.candidate.var) (hnew : ¬ f.config.IsLabel new)
    {scheme : LabelScheme} (hscheme : scheme ∈ f.config.schemes) :
    Pass.Renames f.candidate.var new (f.pass scheme) ((f.rename new).pass scheme) where
  old := rfl
  new := rfl
  patterns := rfl
  scheme? := rfl
  reserved := by
    rintro _ ⟨⟩ i
    have free {name : String} (h : ¬ f.config.IsLabel name) : scheme.label i ≠ name :=
      fun hname => h ⟨scheme, hscheme, i, hname⟩
    simp [pass, vars, rename, free hold, free hnew]

theorem renames_plainPass :
    Pass.Renames f.candidate.var new f.plainPass (f.rename new).plainPass where
  old := rfl
  new := rfl
  patterns := rfl
  scheme? := rfl
  reserved := by
    rintro _ ⟨⟩

theorem isCandidate_rename (hcolumns : ∀ q ∈ columns.flatMap Expr.paths, q.root ≠ new) :
    (f.rename new).isCandidate (columns.map (Expr.rename f.candidate.var new)) =
      f.isCandidate columns := by
  rcases columns with _ | ⟨x, _ | ⟨y, columns⟩⟩
  · rfl
  · exact Pass.isSource_rename renames_plainPass (by simpa using hcolumns)
  · rfl

theorem ordering_rename (hc : ∀ q ∈ c.paths, q.root ≠ new) :
    (f.rename new).ordering (c.mapExprs (Expr.rename f.candidate.var new)) = f.ordering c := by
  have empty : (c.mapExprs (Expr.rename f.candidate.var new)).sort.isEmpty = c.sort.isEmpty :=
    List.isEmpty_map
  have written : (f.rename new).plainPass.writeSort
      (c.mapExprs (Expr.rename f.candidate.var new)).sort = f.plainPass.writeSort c.sort := by
    refine Pass.writeSort_rename renames_plainPass ?_
    intro q hq
    obtain ⟨x, hx, hq⟩ := List.mem_flatMap.1 hq
    exact hc q (List.mem_flatMap.2 ⟨x, List.mem_append_right _ hx, hq⟩)
  unfold ordering
  rw [empty, written]

section Labels

variable (hold : ¬ f.config.IsLabel f.candidate.var) (hnew : ¬ f.config.IsLabel new)
include hold hnew

theorem filterClause_rename (hc : ∀ q ∈ c.paths, q.root ≠ new) :
    (f.rename new).filterClause (c.mapExprs (Expr.rename f.candidate.var new)) =
      f.filterClause c := by
  simp only [filterClause, Clauses.mapExprs]
  cases hx : c.filter with
  | none => rfl
  | some x =>
    have written : ((f.rename new).pass Config.filterLabels).write
        (x.rename f.candidate.var new) = (f.pass Config.filterLabels).write x := by
      refine Pass.write_rename (renames_pass hold hnew (by simp [Config.schemes])) ?_
      intro q hq
      exact hc q (List.mem_flatMap.2 ⟨x, by simp [Clauses.exprs, hx], hq⟩)
    simp only [Option.map_some, written]

theorem groupingWriter_rename (hc : ∀ q ∈ c.paths, q.root ≠ new) :
    (f.rename new).groupingWriter (c.mapExprs (Expr.rename f.candidate.var new)) =
      f.groupingWriter c := by
  have renames : Pass.Renames f.candidate.var new (f.pass f.config.groupLabels)
      ((f.rename new).pass (f.rename new).config.groupLabels) :=
    renames_pass hold hnew (by simp [Config.schemes])
  have groups : ((f.rename new).pass (f.rename new).config.groupLabels).writeList ", "
      (c.groupBy.map (Expr.rename f.candidate.var new)) =
        (f.pass f.config.groupLabels).writeList ", " c.groupBy := by
    refine Pass.writeList_rename renames ", " ?_
    intro q hq
    obtain ⟨x, hx, hq⟩ := List.mem_flatMap.1 hq
    exact hc q (List.mem_flatMap.2 ⟨x, by simp [Clauses.exprs, hx], hq⟩)
  simp only [groupingWriter, Clauses.mapExprs, groups]
  cases hx : c.having with
  | none => rfl
  | some x =>
    have hpaths : ∀ q ∈ x.paths, q.root ≠ new := fun q hq =>
      hc q (List.mem_flatMap.2 ⟨x, by simp [Clauses.exprs, hx], hq⟩)
    simp only [Option.map_some, Pass.write_rename renames hpaths]

theorem grouping_rename (hc : ∀ q ∈ c.paths, q.root ≠ new) (parameters : Bindings) :
    (f.rename new).grouping (c.mapExprs (Expr.rename f.candidate.var new)) parameters =
      f.grouping c parameters := by
  have empty : (c.mapExprs (Expr.rename f.candidate.var new)).groupBy.isEmpty =
      c.groupBy.isEmpty := List.isEmpty_map
  unfold grouping
  rw [empty, groupingWriter_rename hold hnew hc]

theorem columnsWriter_rename (hcolumns : ∀ q ∈ columns.flatMap Expr.paths, q.root ≠ new)
    (distinct : Bool) :
    (f.rename new).columnsWriter distinct (columns.map (Expr.rename f.candidate.var new)) =
      f.columnsWriter distinct columns := by
  have renames : Pass.Renames f.candidate.var new (f.pass f.config.columnLabels)
      ((f.rename new).pass (f.rename new).config.columnLabels) :=
    renames_pass hold hnew (by simp [Config.schemes])
  simp only [columnsWriter, Pass.writeList_rename renames ", " hcolumns]

theorem result_rename (hcolumns : ∀ q ∈ columns.flatMap Expr.paths, q.root ≠ new)
    (parameters : Bindings) :
    (f.rename new).result (c.mapExprs (Expr.rename f.candidate.var new))
        (columns.map (Expr.rename f.candidate.var new)) parameters =
      f.result c columns parameters := by
  unfold result
  rw [List.isEmpty_map, isCandidate_rename hcolumns,
    columnsWriter_rename hold hnew hcolumns]
  rfl

variable (hc : ∀ q ∈ c.paths, q.root ≠ new)
  (hcolumns : ∀ q ∈ columns.flatMap Expr.paths, q.root ≠ new)
include hc hcolumns

theorem rowClauses_rename (window : Window) (unique : Bool) (parameters : Bindings) :
    (f.rename new).rowClauses (c.mapExprs (Expr.rename f.candidate.var new))
        (columns.map (Expr.rename f.candidate.var new)) window unique parameters =
      f.rowClauses c columns window unique parameters := by
  simp only [rowClauses, result_rename hold hnew hcolumns, ordering_rename hc]

theorem shape_rename (mode : Mode) (parameters : Bindings) :
    (f.rename new).shape (c.mapExprs (Expr.rename f.candidate.var new))
        (columns.map (Expr.rename f.candidate.var new)) mode parameters =
      f.shape c columns mode parameters := by
  cases mode with
  | count => rfl
  | list window => simp only [shape, rowClauses_rename hold hnew hc hcolumns]
  | unique => simp only [shape, rowClauses_rename hold hnew hc hcolumns]

/-- The plan holds the class of the candidate, but not its name. -/
theorem assemble_rename (filter : FilterClause) (mode : Mode) :
    (f.rename new).assemble (c.mapExprs (Expr.rename f.candidate.var new))
        (columns.map (Expr.rename f.candidate.var new)) filter mode =
      f.assemble c columns filter mode := by
  simp only [assemble, grouping_rename hold hnew hc, shape_rename hold hnew hc hcolumns]
  rfl

end Labels

end Frame

theorem planOf_rename {config : Config} {candidate : Source} {new : String}
    (hold : ¬ config.IsLabel candidate.var) (hnew : ¬ config.IsLabel new) {c : Clauses}
    {extra : List Expr} (hpaths : ∀ q ∈ c.paths ++ extra.flatMap Expr.paths, q.root ≠ new)
    (others : List Source) (mode : Mode) :
    planOf config ({ candidate with var := new } :: others)
        (c.mapExprs (Expr.rename candidate.var new))
        (extra.map (Expr.rename candidate.var new)) mode =
      planOf config (candidate :: others) c extra mode := by
  have hc : ∀ q ∈ c.paths, q.root ≠ new := fun q hq => hpaths q (List.mem_append_left _ hq)
  have hcolumns : ∀ q ∈ (c.addColumns extra).columns.flatMap Expr.paths, q.root ≠ new :=
    fun q hq => hpaths q (c.paths_columns_subset extra hq)
  let f : Frame := ⟨config, candidate, others⟩
  show ((f.rename new).filterClause (c.mapExprs (Expr.rename candidate.var new)) >>= _) =
    (f.filterClause c >>= _)
  rw [Frame.filterClause_rename hold hnew hc,
    Clauses.addColumns_mapExprs (Expr.keepsShape_rename _ _)]
  refine congrArg _ (funext fun filter => ?_)
  exact Frame.assemble_rename (f := f) hold hnew hc hcolumns filter mode

/-! ### Sessions -/

theorem Source.map_rename_of_nodup {candidate : Source} {others : List Source}
    (hdistinct : ((candidate :: others).map (·.var)).Nodup) (new : String) :
    (candidate :: others).map (Source.rename candidate.var new) =
      { candidate with var := new } :: others := by
  have other : ∀ s ∈ others, Source.rename candidate.var new s = s := by
    intro s hs
    have differs : s.var ≠ candidate.var := by
      intro heq
      exact (List.nodup_cons.1 hdistinct).1 (List.mem_map.2 ⟨s, hs, heq⟩)
    rw [Source.rename, if_neg differs]
  rw [List.map_cons, List.map_congr_left other, List.map_id']
  simp [Source.rename]

/-- Rename a variable in a call. -/
def Call.rename (old new : String) : Call → Call :=
  Call.map (Expr.rename old new) (Source.rename old new)

namespace Session

variable {σ η σ' η' : Type} (e : Engine σ η) (e' : Engine σ' η')

/-- **The candidate's name does not matter.** Give the candidate another name, in the sources and
wherever a path begins at it, that no path of the query has. If neither name is a label, the session
fails with the same error or has the same plan. Such a session is reached by the same calls with the
other name, whatever the engines answer. -/
theorem plan_rename_candidate (config : Config) (calls : List Call) (state : σ) (state' : σ')
    (extra : List Expr) (mode : Mode) {candidate : Source} {others : List Source} {name : String}
    (hsources : (run e calls (new config, state)).1.sources = candidate :: others)
    (hdistinct : ((candidate :: others).map (·.var)).Nodup)
    (hcandidate : ¬ config.IsLabel candidate.var) (hname : ¬ config.IsLabel name)
    (hpaths : ∀ q ∈ (run e calls (new config, state)).1.clauses.paths ++
      extra.flatMap Expr.paths, q.root ≠ name) :
    (∀ calls', (run e' calls' (new config, state')).1.sources =
        { candidate with var := name } :: others →
      (run e' calls' (new config, state')).1.clauses =
        (run e calls (new config, state)).1.clauses.mapExprs (Expr.rename candidate.var name) →
      ((run e' calls' (new config, state')).1.plan
          (extra.map (Expr.rename candidate.var name)) mode).1 =
        ((run e calls (new config, state)).1.plan extra mode).1) ∧
    (run e' (calls.map (Call.rename candidate.var name)) (new config, state')).1.sources =
      { candidate with var := name } :: others ∧
    (run e' (calls.map (Call.rename candidate.var name)) (new config, state')).1.clauses =
      (run e calls (new config, state)).1.clauses.mapExprs (Expr.rename candidate.var name) := by
  constructor
  · intro calls' hsources' hclauses'
    rw [plan_run, plan_run, hsources', hclauses', hsources]
    exact planOf_rename hcandidate hname hpaths others mode
  · have mapped := run_map e e' (Expr.keepsShape_rename candidate.var name)
      (Source.rename candidate.var name) config calls state state'
    rwa [hsources, Source.map_rename_of_nodup hdistinct] at mapped

/-! Persons and their dogs, by another name -/

/-- Dogs and their owners, with the same age in three clauses. -/
def owners : List Call :=
  let age := Expr.path ⟨"person", ["age"]⟩
  [.addSources [⟨"Person", "person"⟩, ⟨"Dog", "dog"⟩],
    .addFilter ((Expr.path ⟨"dog", ["owner"]⟩).eq (.path ⟨"person", []⟩)),
    .addFilter (age.gt (.literal (.int 30))), .groupBy [age],
    .having (age.count.gt (.literal (.int 30))),
    .project [.path ⟨"person", []⟩, age.add (.literal (.int 30))], .orderBy [⟨age, .descending⟩]]

theorem plan_owners :
    ((run refusing owners (new Config.default, ())).1.plan [] .unique).1.toOption.bind
      (fun plan => some (plan.filter, plan.grouping, plan.result, plan.ordering)) =
        some (some "dog.owner == this && age > a", some "age having count(age) > varg1",
          some "this, age + varp1", some "age descending") := by
  decide +kernel

theorem plan_owners_renamed :
    ∃ plan, ((run refusing owners (new Config.default, ())).1.plan [] .unique).1 = .ok plan ∧
      plan.filter = some "dog.owner == this && age > a" ∧
      plan.result = some "this, age + varp1" ∧
      ((run refusing (owners.map (Call.rename "person" "master")) (new Config.default, ())).1.plan
        [] .unique).1 = .ok plan := by
  obtain ⟨plan, h, hplan⟩ := exists_of_toOption_bind plan_owners
  obtain ⟨filter, texts⟩ := Prod.mk.inj (Option.some.inj hplan)
  obtain ⟨-, rest⟩ := Prod.mk.inj texts
  obtain ⟨result, -⟩ := Prod.mk.inj rest
  have sources : (run refusing owners (new Config.default, ())).1.sources =
      ⟨"Person", "person"⟩ :: [⟨"Dog", "dog"⟩] := rfl
  have paths : ∀ q ∈ (run refusing owners (new Config.default, ())).1.clauses.paths ++ [],
      q.root ≠ "master" := by
    decide +kernel
  obtain ⟨alike, sources', clauses'⟩ := plan_rename_candidate refusing refusing .default owners ()
    () [] .unique sources (by decide) (by decide) (by decide) paths
  rw [h] at alike
  exact ⟨plan, h, filter, result, alike _ sources' clauses'⟩

end Session

end StoreQuery
