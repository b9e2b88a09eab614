import StoreQuery.Recorder

/-!
# Many queries, one recorder

All queries that are prepared share one list of records and one script, and their steps may come in
any order. A record nevertheless depends on the steps of its own query alone, and the script is used
up from its front, one entry for each run that binds as many values as its query declares.

* `Recorder.Step` : what may be done with a recorder, and `Recorder.after` : what it leaves;
* `Recorder.preparedAs` : how a query was prepared, and the steps since;
* `Recorder.taken` : the entries of the script that runs took, in this order;
* `Recorder.records_after` : a record is made by the steps of its query alone;
* `Recorder.taken_append_script` : what is taken and what is left is what was scripted;
* `Recorder.separates_after` : **records are apart, and the script is taken in order.**
-/

namespace StoreQuery

namespace Recorder

/-- What may be done with a recorder. -/
inductive Step where
  /-- Script what a later run gives. -/
  | push (s : Scripted)
  /-- Prepare a query for a class of objects. -/
  | prepare (primaryClass : String)
  /-- Tell something about a query. -/
  | configure (h : Nat) (setting : Setting)
  /-- Run a query, with values for its parameters if it has any. -/
  | run (h : Nat) (values : Option (List Value))
  /-- Release a query. -/
  | release (h : Nat)

namespace Step

/-- The query whose step it is. -/
def handle? : Step → Option Nat
  | .configure h _ | .run h _ | .release h => some h
  | .push _ | .prepare _ => none

/-- The class for which a query is prepared. -/
def class? : Step → Option String
  | .prepare primaryClass => some primaryClass
  | _ => none

/-- What is put on the script. -/
def pushed? : Step → Option Scripted
  | .push s => some s
  | _ => none

end Step

variable (r : Recorder)

/-- Do a step. Of an answer only what it leaves behind is kept. -/
def step : Step → Recorder
  | .push s => r.push s
  | .prepare primaryClass => (engine.prepare primaryClass r).2
  | .configure h setting => engine.configure h setting r
  | .run h values => (engine.run h values r).2
  | .release h => engine.release h r

/-- What steps leave, done one after another. -/
def steps (r : Recorder) (steps : List Step) : Recorder := steps.foldl step r

/-- What steps leave of a recorder on which nothing was recorded and scripted. -/
def after (steps : List Step) : Recorder := empty.steps steps

end Recorder

/-! ### What is expected -/

/-- The run binds as many values as the query declares parameters. -/
def Record.Aligned (record : Record) (values : Option (List Value)) : Prop :=
  record.declaredCount = (values.getD []).length

instance (record : Record) (values : Option (List Value)) : Decidable (record.Aligned values) :=
  inferInstanceAs (Decidable (_ = _))

/-- What a step of its query does to a record. A run that is not aligned does nothing. -/
def Record.apply (record : Record) : Recorder.Step → Record
  | .configure _ setting => record.note setting
  | .run _ values => if record.Aligned values then record.noteRun values else record
  | .release _ => record.noteRelease
  | .push _ | .prepare _ => record

namespace Recorder

/-- The class for which a query was prepared, if it was, and all steps since. -/
def preparedAs (h : Nat) : List Step → Option (String × List Step)
  | [] => none
  | s :: later =>
    match s.class?, h with
    | some primaryClass, 0 => some (primaryClass, later)
    | some _, h + 1 => preparedAs h later
    | none, h => preparedAs h later

theorem preparedAs_cons_of_none {s : Step} (hs : s.class? = none) (h : Nat) (later : List Step) :
    preparedAs h (s :: later) = preparedAs h later := by
  simp [preparedAs, hs]

theorem preparedAs_zero_cons {s : Step} {primaryClass : String} (hs : s.class? = some primaryClass)
    (later : List Step) : preparedAs 0 (s :: later) = some (primaryClass, later) := by
  simp [preparedAs, hs]

theorem preparedAs_succ_cons {s : Step} {primaryClass : String} (hs : s.class? = some primaryClass)
    (h : Nat) (later : List Step) : preparedAs (h + 1) (s :: later) = preparedAs h later := by
  simp [preparedAs, hs]

/-- The record that the steps of a query make, if it was prepared for a class. -/
def recordOf (h : Nat) (primaryClass : String) (steps : List Step) : Record :=
  (steps.filter fun s => s.handle? = some h).foldl .apply (.prepared primaryClass)

/-- What a run answers with the next entry of the script, if there is one. -/
def answer (unique : Bool) : Option Scripted → Except String Output
  | some (.output output) => .ok output
  | some (.failure message) => .error message
  | none => .ok (if unique then .unique none else .rows [])

/-- What a step takes off the script: the next entry, if it is a run that is aligned. -/
def takes (r : Recorder) : Step → List Scripted
  | .run h values =>
    if ∃ record ∈ r.records[h]?, record.Aligned values then r.script.head?.toList else []
  | _ => []

/-- What steps take off the script, in order. -/
def taken (r : Recorder) : List Step → List Scripted
  | [] => []
  | s :: steps => r.takes s ++ (r.step s).taken steps

/-! ### One step -/

variable {r : Recorder}

theorem take_eq_answer (r : Recorder) (unique : Bool) :
    r.take unique = (answer unique r.script.head?, ⟨r.records, r.script.tail⟩) := by
  rcases r with ⟨records, _ | ⟨output | message, script⟩⟩ <;> rfl

theorem run_of_aligned {h : Nat} {record : Record} {values : Option (List Value)}
    (hrecord : r.records[h]? = some record) (aligned : record.Aligned values) :
    engine.run h values r = (answer record.unique r.script.head?,
      ⟨r.records.modify h fun record => record.noteRun values, r.script.tail⟩) := by
  change r.run h values = _
  rw [run, hrecord]
  exact (if_pos aligned).trans (take_eq_answer _ _)

theorem run_of_not_aligned {h : Nat} {record : Record} {values : Option (List Value)}
    (hrecord : r.records[h]? = some record) (misaligned : ¬ record.Aligned values) :
    engine.run h values r =
      (.error (Recorder.misaligned record.declaredCount (values.getD []).length), r) := by
  change r.run h values = _
  rw [run, hrecord]
  exact if_neg misaligned

theorem run_of_none {h : Nat} (hrecord : r.records[h]? = none) (values : Option (List Value)) :
    (engine.run h values r).2 = r := by
  change (r.run h values).2 = r
  rw [run, hrecord]

/-- A step of a query changes its record, and no other. -/
theorem records_step_of_handle {s : Step} {h : Nat} (hs : s.handle? = some h) :
    (r.step s).records = r.records.modify h (·.apply s) := by
  cases s with
  | push | prepare => cases hs
  | configure | release =>
    cases hs
    rfl
  | run h' values =>
    cases hs
    -- A run that does not bind as many values as are declared leaves no trace in the record.
    refine List.ext_getElem? ?_
    intro i
    rw [List.getElem?_modify, step]
    cases hrecord : r.records[h]? with
    | none =>
      rw [run_of_none hrecord]
      by_cases hi : h = i
      · rw [← hi, hrecord]
        rfl
      · simp [hi]
    | some record =>
      by_cases aligned : record.Aligned values
      · rw [run_of_aligned hrecord aligned, List.getElem?_modify]
        by_cases hi : h = i
        · subst hi
          simp [hrecord, Record.apply, aligned]
        · simp [hi]
      · rw [run_of_not_aligned hrecord aligned]
        by_cases hi : h = i
        · subst hi
          simp [hrecord, Record.apply, aligned]
        · simp [hi]

/-- A query that is prepared is recorded last. -/
theorem records_step_of_none {s : Step} (hs : s.handle? = none) :
    (r.step s).records = r.records ++ s.class?.toList.map .prepared := by
  cases s with
  | push => exact (List.append_nil _).symm
  | prepare => rfl
  | _ => cases hs

theorem class?_of_handle {s : Step} {h : Nat} (hs : s.handle? = some h) : s.class? = none := by
  cases s <;> first | rfl | cases hs

theorem getElem?_records_step {h : Nat} {record : Record} (hrecord : r.records[h]? = some record)
    (s : Step) :
    (r.step s).records[h]? = some (if s.handle? = some h then record.apply s else record) := by
  cases hs : s.handle? with
  | none =>
    obtain ⟨hlt, -⟩ := List.getElem?_eq_some_iff.1 hrecord
    rw [records_step_of_none hs, List.getElem?_append_left hlt, hrecord]
    rfl
  | some h' =>
    rw [records_step_of_handle hs, List.getElem?_modify, hrecord]
    by_cases hh : h' = h <;> simp [hh]

/-- Records are added and never removed. -/
theorem classes_step (r : Recorder) (s : Step) : (r.step s).records.map (·.primaryClass) =
    r.records.map (·.primaryClass) ++ s.class?.toList := by
  cases hs : s.handle? with
  | none =>
    rw [records_step_of_none hs, List.map_append, List.map_map]
    congr 1
    exact List.map_id _
  | some h =>
    have kept (record : Record) : (record.apply s).primaryClass = record.primaryClass := by
      cases s with
      | configure h setting => cases setting <;> rfl
      | run h values =>
        rw [Record.apply]
        split <;> rfl
      | _ => rfl
    rw [records_step_of_handle hs, class?_of_handle hs, Option.toList_none, List.append_nil]
    refine List.ext_getElem? ?_
    intro i
    rw [List.getElem?_map, List.getElem?_map, List.getElem?_modify]
    by_cases hi : h = i
    · cases r.records[i]? <;> simp [hi, kept]
    · simp [hi]

/-- What a step takes and what it leaves on the script is what was there and what it adds. -/
theorem takes_append_script (r : Recorder) (s : Step) :
    r.takes s ++ (r.step s).script = r.script ++ s.pushed?.toList := by
  cases s with
  | push => rfl
  | prepare | configure | release => exact (List.append_nil _).symm
  | run h values =>
    rw [show (Step.run h values).pushed? = none from rfl, Option.toList_none, List.append_nil]
    rw [takes, step]
    cases hrecord : r.records[h]? with
    | none =>
      rw [run_of_none hrecord]
      simp
    | some record =>
      by_cases aligned : record.Aligned values
      · rw [run_of_aligned hrecord aligned]
        cases r.script <;> simp [aligned]
      · rw [run_of_not_aligned hrecord aligned]
        simp [aligned]

/-! ### Many steps -/

theorem steps_cons (s : Step) (later : List Step) : r.steps (s :: later) = (r.step s).steps later :=
  rfl

theorem after_snoc (before : List Step) (s : Step) :
    after (before ++ [s]) = (after before).step s := by
  simp [after, steps]

/-- From when a query is prepared, its record is changed by its own steps. -/
theorem records_steps_of_some {h : Nat} {record : Record} (hrecord : r.records[h]? = some record)
    (later : List Step) : (r.steps later).records[h]? =
      some ((later.filter fun s => s.handle? = some h).foldl .apply record) := by
  induction later generalizing r record with
  | nil => exact hrecord
  | cons s later ih =>
    rw [steps_cons, ih (getElem?_records_step hrecord s), List.filter_cons]
    by_cases hs : s.handle? = some h <;> simp [hs]

/-- What was done before a query is prepared does not count. -/
theorem records_steps_of_le {h : Nat} (hle : r.records.length ≤ h) (later : List Step) :
    (r.steps later).records[h]? = (preparedAs (h - r.records.length) later).map fun prepared =>
      recordOf h prepared.1 prepared.2 := by
  induction later generalizing r with
  | nil => exact List.getElem?_eq_none hle
  | cons s later ih =>
    have length := congrArg List.length (classes_step r s)
    rw [List.length_map, List.length_append, List.length_map] at length
    rw [steps_cons]
    cases hclass : s.class? with
    | none =>
      rw [hclass, Option.toList_none, List.length_nil, Nat.add_zero] at length
      rw [ih (by omega), length, preparedAs_cons_of_none hclass]
    | some primaryClass =>
      rw [hclass, Option.toList_some, List.length_singleton] at length
      -- The query itself is prepared now, or another one that comes before it.
      obtain rfl | hlt := Nat.eq_or_lt_of_le hle
      · have hs : s.handle? = none := by cases s <;> first | rfl | cases hclass
        rw [Nat.sub_self, preparedAs_zero_cons hclass]
        refine records_steps_of_some ?_ later
        simp [records_step_of_none hs, hclass]
      · rw [ih (by omega), length,
          show h - r.records.length = h - (r.records.length + 1) + 1 by omega,
          preparedAs_succ_cons hclass]

/-- A record is made by the steps of its query since it was prepared. -/
theorem records_after (steps : List Step) (h : Nat) : (after steps).records[h]? =
    (preparedAs h steps).map fun prepared => recordOf h prepared.1 prepared.2 :=
  records_steps_of_le (r := empty) (Nat.zero_le h) steps

theorem classes_steps (r : Recorder) (later : List Step) :
    (r.steps later).records.map (·.primaryClass) =
      r.records.map (·.primaryClass) ++ later.filterMap Step.class? := by
  induction later generalizing r with
  | nil => exact (List.append_nil _).symm
  | cons s later ih =>
    rw [steps_cons, ih, classes_step, List.append_assoc]
    congr 1
    cases h : s.class? <;> simp [h]

theorem classes_after (steps : List Step) :
    (after steps).records.map (·.primaryClass) = steps.filterMap Step.class? :=
  classes_steps empty steps

theorem taken_append_script_steps (r : Recorder) (later : List Step) :
    r.taken later ++ (r.steps later).script = r.script ++ later.filterMap Step.pushed? := by
  induction later generalizing r with
  | nil => exact (List.append_nil _).symm
  | cons s later ih =>
    rw [taken, steps_cons, List.append_assoc, ih, ← List.append_assoc, takes_append_script,
      List.append_assoc]
    congr 1
    cases h : s.pushed? <;> simp [h]

/-- What was taken and what is left is what was scripted, in the same order. -/
theorem taken_append_script (steps : List Step) :
    empty.taken steps ++ (after steps).script = steps.filterMap Step.pushed? :=
  taken_append_script_steps empty steps

theorem taken_snoc (r : Recorder) (before : List Step) (s : Step) :
    r.taken (before ++ [s]) = r.taken before ++ (r.steps before).takes s := by
  induction before generalizing r with
  | nil => exact List.append_nil _
  | cons s' before ih =>
    rw [List.cons_append, taken, taken, ih, List.append_assoc]
    rfl

/-- The entry that is next on the script is the first that was scripted and not taken. -/
theorem head?_script_after (steps : List Step) : (after steps).script.head? =
    (steps.filterMap Step.pushed?)[(empty.taken steps).length]? := by
  rw [← taken_append_script, List.getElem?_append_right (Nat.le_refl _), Nat.sub_self,
    List.head?_eq_getElem?]

/-! ### Records are apart -/

/-- Queries do not touch each other's records, and their runs share one script. -/
structure Separates (steps : List Step) : Prop where
  /-- A record is made by the steps of its query since it was prepared, for the class for which it
  was prepared. -/
  isolated : ∀ h, (after steps).records[h]? =
    (preparedAs h steps).map fun prepared => recordOf h prepared.1 prepared.2
  /-- There is a record for each query that was prepared, in the order in which they were. -/
  numbered : (after steps).records.map (·.primaryClass) = steps.filterMap Step.class?
  /-- The next query gets the next number. -/
  prepared : ∀ primaryClass, engine.prepare primaryClass (after steps) =
    (.ok (steps.filterMap Step.class?).length, after (steps ++ [.prepare primaryClass]))
  /-- What was taken off the script and what is left is what was scripted. -/
  ordered : empty.taken steps ++ (after steps).script = steps.filterMap Step.pushed?
  /-- A run that is aligned is answered with the first entry that is left, and takes it. If there is
  none, nothing is found. -/
  aligned : ∀ h record values, (after steps).records[h]? = some record → record.Aligned values →
    ∃ next, next = (steps.filterMap Step.pushed?)[(empty.taken steps).length]? ∧
      engine.run h values (after steps) =
        (answer record.unique next, after (steps ++ [.run h values])) ∧
      empty.taken (steps ++ [.run h values]) = empty.taken steps ++ next.toList
  /-- Any other run fails, takes nothing and changes nothing. -/
  misaligned : ∀ h record values, (after steps).records[h]? = some record →
    ¬ record.Aligned values →
    engine.run h values (after steps) =
        (.error (misaligned record.declaredCount (values.getD []).length), after steps) ∧
      after (steps ++ [.run h values]) = after steps ∧
      empty.taken (steps ++ [.run h values]) = empty.taken steps
  /-- What is no run takes nothing. -/
  idle : ∀ s, (∀ h values, s ≠ .run h values) → empty.taken (steps ++ [s]) = empty.taken steps

/-- **Records are apart, and the script is taken in order**, after any steps of any queries. -/
theorem separates_after (steps : List Step) : Separates steps where
  isolated := records_after steps
  numbered := classes_after steps
  prepared primaryClass := by
    rw [after_snoc, ← classes_after, List.length_map]
    rfl
  ordered := taken_append_script steps
  aligned h record values hrecord aligned := by
    refine ⟨_, rfl, ?_, ?_⟩
    · rw [after_snoc, ← head?_script_after]
      refine Prod.ext ?_ rfl
      rw [run_of_aligned hrecord aligned]
    · rw [taken_snoc, ← head?_script_after]
      change _ ++ (after steps).takes _ = _
      simp [takes, hrecord, aligned]
  misaligned h record values hrecord misaligned := by
    have answered := run_of_not_aligned hrecord misaligned
    refine ⟨answered, ?_, ?_⟩
    · rw [after_snoc]
      exact congrArg Prod.snd answered
    · rw [taken_snoc]
      change _ ++ (after steps).takes _ = _
      simp [takes, hrecord, misaligned]
  idle s hs := by
    rw [taken_snoc]
    cases s with
    | run h values => exact absurd rfl (hs h values)
    | _ => exact List.append_nil _

/-- Two queries. One declares a parameter and is run without a value, the other is run and then told
that a single row is wanted. Of two entries of the script one is left. -/
def interleaved : List Step :=
  [.push (.output (.rows [[.int 1]])), .prepare "Person", .prepare "Dog",
    .configure 1 (.parameters "Integer a"), .push (.failure "down"), .run 1 none, .run 0 none,
    .configure 0 (.unique true)]

theorem separates_interleaved :
    (after interleaved).records.map (·.primaryClass) = ["Person", "Dog"] ∧
    (after interleaved).records[1]? =
      some (recordOf 1 "Dog" [.configure 1 (.parameters "Integer a"), .run 1 none]) ∧
    engine.run 1 none (after interleaved) =
      (.error "query declares 1 parameter(s) but 0 were bound", after interleaved) ∧
    engine.run 1 (some [.int 5]) (after interleaved) =
      (.error "down", after (interleaved ++ [.run 1 (some [.int 5])])) ∧
    engine.run 0 none (after (interleaved ++ [.run 1 (some [.int 5])])) =
      (.ok (.unique none), after (interleaved ++ [.run 1 (some [.int 5])] ++ [.run 0 none])) := by
  have dog : (after interleaved).records[1]? =
      some ((Record.prepared "Dog").note (.parameters "Integer a")) := rfl
  have person : (after (interleaved ++ [.run 1 (some [.int 5])])).records[0]? =
      some (((Record.prepared "Person").noteRun none).note (.unique true)) := rfl
  obtain ⟨_, rfl, answered, -⟩ :=
    (separates_after interleaved).aligned 1 _ (some [.int 5]) dog (by decide)
  obtain ⟨_, rfl, found, -⟩ :=
    (separates_after (interleaved ++ [.run 1 (some [.int 5])])).aligned 0 _ none person (by decide)
  have apart := separates_after interleaved
  refine ⟨apart.numbered, apart.isolated 1, ?_, ?_, ?_⟩
  · exact (apart.misaligned 1 _ none dog (by decide)).1
  · exact answered
  · exact found

end Recorder

end StoreQuery
