import StoreQuery.Engine

/-!
# The recording engine

A `Recorder` is an engine without a store. It keeps a record of what each query was told and gives
the outputs that were scripted for it, one for each run; when the script is used up, a run finds
nothing.

* `Recorder.engine` is the engine; its handles are the indices of the records;
* a run must bind as many values as the query declares parameters, or it fails and leaves no trace.
-/

namespace StoreQuery

/-- What a query was told and what was done with it. -/
structure Record where
  /-- The class it was prepared for. -/
  primaryClass : String
  /-- The condition on objects. -/
  filter : Option String
  /-- The declaration of variables. -/
  auxiliary : Option String
  /-- The declaration of parameters. -/
  parameters : Option String
  /-- The groups. -/
  grouping : Option String
  /-- The rows that are wanted. -/
  range : Option (UInt64 × UInt64)
  /-- The columns. -/
  result : Option String
  /-- The order. -/
  ordering : Option String
  /-- A single row is wanted. -/
  unique : Bool
  /-- The values of the last run, if it had any. -/
  bound : Option (List Value)
  /-- The number of runs. -/
  executions : Nat
  /-- The number of times it was released. -/
  closes : Nat

namespace Record

/-- The record of a query that was only prepared. -/
def prepared (primaryClass : String) : Record :=
  ⟨primaryClass, none, none, none, none, none, none, none, false, none, 0, 0⟩

/-- Note a setting. -/
def note (r : Record) : Setting → Record
  | .filter text => { r with filter := some text }
  | .auxiliary text => { r with auxiliary := some text }
  | .parameters text => { r with parameters := some text }
  | .grouping text => { r with grouping := some text }
  | .range start stop => { r with range := some (start, stop) }
  | .result text => { r with result := some text }
  | .ordering text => { r with ordering := some text }
  | .unique unique => { r with unique }

/-- Note a release. -/
def noteRelease (r : Record) : Record := { r with closes := r.closes + 1 }

/-- Note a run. -/
def noteRun (r : Record) (values : Option (List Value)) : Record :=
  { r with executions := r.executions + 1, bound := values }

/-- The pieces of a text between `", "`. There is always one. -/
def pieces : List Char → List (List Char)
  | [] => [[]]
  | ',' :: ' ' :: cs => [] :: pieces cs
  | c :: cs => (pieces cs).modifyHead (c :: ·)

/-- The number of parameters declared. -/
def declaredCount (r : Record) : Nat :=
  match r.parameters with
  | some text => (pieces text.toList).length
  | none => 0

end Record

/-- What a run gives. -/
inductive Scripted where
  /-- An output. -/
  | output (output : Output)
  /-- A failure with a text. -/
  | failure (message : String)

/-- The records of all queries and the outputs still to be given. -/
structure Recorder where
  /-- The records, in the order in which the queries were prepared. -/
  records : List Record
  /-- The outputs, the next first. -/
  script : List Scripted

namespace Recorder

/-- Nothing recorded and nothing scripted. -/
def empty : Recorder := ⟨[], []⟩

variable (r : Recorder)

/-! ### Scripting -/

/-- Script what a later run gives. -/
def push (s : Scripted) : Recorder := { r with script := r.script ++ [s] }

/-- Script rows. -/
def pushRows (rows : List Row) : Recorder := r.push (.output (.rows rows))

/-- Script rows of one column. -/
def pushValues (values : List Value) : Recorder := r.pushRows (values.map fun v => [v])

/-- Script a single result. -/
def pushUnique (row : Option Row) : Recorder := r.push (.output (.unique row))

/-- Script a count. -/
def pushCount (n : Int64) : Recorder := r.pushUnique (some [.long n])

/-- Script a failure. -/
def pushFailure (message : String) : Recorder := r.push (.failure message)

/-! ### Running -/

/-- The record of the query that was prepared last. -/
def last? : Option Record := r.records.getLast?

/-- Change the record of a query. -/
def update (h : Nat) (f : Record → Record) : Recorder := { r with records := r.records.modify h f }

/-- Take the next output off the script. -/
def take (unique : Bool) : Except String Output × Recorder :=
  match r.script with
  | .output output :: rest => (.ok output, { r with script := rest })
  | .failure message :: rest => (.error message, { r with script := rest })
  | [] => (.ok (if unique then .unique none else .rows []), r)

/-- The text of a failure to bind as many values as parameters are declared. -/
def misaligned (declared supplied : Nat) : String :=
  "query declares " ++ toString declared ++ " parameter(s) but " ++ toString supplied ++
    " were bound"

/-- Run a query. -/
def run (h : Nat) (values : Option (List Value)) : Except String Output × Recorder :=
  match r.records[h]? with
  | none => (.error ("query handle " ++ toString h ++ " was never prepared"), r)
  | some record =>
    let supplied := (values.getD []).length
    if record.declaredCount = supplied then
      (r.update h fun record => record.noteRun values).take record.unique
    else (.error (misaligned record.declaredCount supplied), r)

/-- The recorder as an engine. -/
def engine : Engine Recorder Nat where
  prepare primaryClass r :=
    (.ok r.records.length, { r with records := r.records ++ [.prepared primaryClass] })
  configure h setting r := r.update h fun record => record.note setting
  run h values r := r.run h values
  release h r := r.update h Record.noteRelease

end Recorder

end StoreQuery
