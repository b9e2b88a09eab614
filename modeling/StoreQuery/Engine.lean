import StoreQuery.Value

/-!
# Engines

An engine answers queries. It prepares a handle for a query, is told the query's texts one
`Setting` at a time, runs it with values for its parameters, and keeps what belongs to the handle
until it is released. `Engine σ η` describes an engine with state `σ` and handles `η`.

* `Registry` holds the handles that are to be released.
-/

namespace StoreQuery

/-- A row of a result, one value for each column. -/
abbrev Row := List Value

/-- What an engine is told about a query. -/
inductive Setting where
  /-- The condition on objects. -/
  | filter (text : String)
  /-- The declaration of variables. -/
  | auxiliary (text : String)
  /-- The declaration of parameters. -/
  | parameters (text : String)
  /-- The groups. -/
  | grouping (text : String)
  /-- The rows from the first index to before the second. -/
  | range (start stop : UInt64)
  /-- The columns. -/
  | result (text : String)
  /-- The order. -/
  | ordering (text : String)
  /-- Whether a single row is wanted. -/
  | unique (unique : Bool)
deriving DecidableEq

/-- What an engine returns. -/
inductive Output where
  /-- The rows of a query for many. -/
  | rows (rows : List Row)
  /-- The row of a query for one, if there is a row. -/
  | unique (row : Option Row)

/-- An engine: each step takes the engine's state to the next and may fail with a text. -/
structure Engine (σ η : Type) where
  /-- Prepare a query for a class of objects. -/
  prepare : String → σ → Except String η × σ
  /-- Tell the engine about a query. -/
  configure : η → Setting → σ → σ
  /-- Run a query, with values for its parameters if it has any. -/
  run : η → Option (List Value) → σ → Except String Output × σ
  /-- Give up a query. -/
  release : η → σ → σ

/-- Tell an engine several things about a query. -/
def Engine.configureAll (e : Engine σ η) (h : η) (settings : List Setting) (state : σ) : σ :=
  settings.foldl (fun state setting => e.configure h setting state) state

/-- The handles that are to be released, in the order in which they were prepared. -/
structure Registry (η : Type) where
  /-- The handles. -/
  handles : List η

namespace Registry

/-- No handles. -/
def empty : Registry η := ⟨[]⟩

/-- Hold one more handle. -/
def register (r : Registry η) (h : η) : Registry η := ⟨r.handles ++ [h]⟩

/-- The number of handles held. -/
def size (r : Registry η) : Nat := r.handles.length

@[simp] theorem size_register (r : Registry η) (h : η) : (r.register h).size = r.size + 1 := by
  simp [register, size]

/-- No handle is held. -/
def isEmpty (r : Registry η) : Bool := r.handles.isEmpty

/-- Release every handle and hold none. -/
def releaseAll (e : Engine σ η) (r : Registry η) (state : σ) : Registry η × σ :=
  (empty, r.handles.foldl (fun state h => e.release h state) state)

end Registry

end StoreQuery
