import StoreQuery.Json
import StoreQuery.Value.Tagged

/-!
# Labels and bindings

A label stands in a query text where a literal was. `LabelScheme.label` numbers the labels of a
clause: one letter after another and then letters with a number, or a fixed word with a number.

`Bindings` are the labels that a clause gave to its literals, each with the value it stands for, in
the order of their first use. They become the declared parameters of a query.

* `LabelScheme.nextFree` is the first index, from a given one on, whose label is not reserved;
* `Bindings.labelFor` finds the label of a value or assigns the next free one;
* `Bindings.merge` appends the bindings of another clause, unless a label comes twice;
* `Bindings.declaration` declares the parameters and `Bindings.values` are bound to them, in the
  same order.
-/

namespace StoreQuery

/-! ### Labels -/

/-- How the labels of a clause are made. -/
inductive LabelScheme where
  /-- `a` to `z`, then `a1` to `z1`, and so on. -/
  | alphabetic
  /-- A word followed by a number from one. -/
  | numbered (word : String)
deriving DecidableEq

namespace LabelScheme

/-- The letter with a given index in the alphabet. -/
def letter (index : Nat) : String := String.singleton (Char.ofNat ('a'.toNat + index))

/-- The label with a given index. -/
def label : LabelScheme → Nat → String
  | .alphabetic, n => if n < 26 then letter n else letter (n % 26) ++ toString (n / 26)
  | .numbered word, n => word ++ toString (n + 1)

/-- The first index from `n` on whose label is not reserved. Labels of different indices differ,
so that a reserved name stops one index only and need not be looked at again. -/
def nextFree (scheme : LabelScheme) (reserved : List String) (n : Nat) : Nat :=
  if h : scheme.label n ∈ reserved then
    have : (reserved.filter (· != scheme.label n)).length < reserved.length :=
      List.length_filter_lt_length_iff_exists.2 ⟨_, h, by simp⟩
    nextFree scheme (reserved.filter (· != scheme.label n)) (n + 1)
  else n
termination_by reserved.length

end LabelScheme

/-! ### Bindings -/

/-- A label and the value it stands for. -/
structure Binding where
  /-- The label. -/
  label : String
  /-- The value. -/
  value : Value

/-- The labels given so far. -/
structure Bindings where
  /-- The bindings, in the order in which the labels were given. -/
  entries : List Binding
  /-- The index of the next label to try. -/
  next : Nat

namespace Bindings

/-- No labels. -/
def empty : Bindings := ⟨[], 0⟩

/-- The labels, in order. -/
def labels (b : Bindings) : List String := b.entries.map (·.label)

/-- The values, in order. -/
def values (b : Bindings) : List Value := b.entries.map (·.value)

/-- The value under a label. -/
def get? (b : Bindings) (label : String) : Option Value :=
  (b.entries.find? fun e => e.label == label).map (·.value)

/-- The label of a value that has one. -/
def labelOf? (b : Bindings) (v : Value) : Option String :=
  (b.entries.find? fun e => e.value == v).map (·.label)

/-- Give a value the next free label. -/
def assign (b : Bindings) (v : Value) (scheme : LabelScheme) (reserved : List String) :
    String × Bindings :=
  let index := scheme.nextFree reserved b.next
  let label := scheme.label index
  (label, ⟨b.entries ++ [⟨label, v⟩], index + 1⟩)

@[simp] theorem labels_assign (b : Bindings) (v : Value) (scheme : LabelScheme)
    (reserved : List String) :
    (b.assign v scheme reserved).2.labels = b.labels ++ [(b.assign v scheme reserved).1] := by
  simp [assign, labels]

@[simp] theorem values_assign (b : Bindings) (v : Value) (scheme : LabelScheme)
    (reserved : List String) : (b.assign v scheme reserved).2.values = b.values ++ [v] := by
  simp [assign, values]

/-- The label of a value: the one it has, or the next that is not reserved. -/
def labelFor (b : Bindings) (v : Value) (scheme : LabelScheme) (reserved : List String) :
    String × Bindings :=
  match b.labelOf? v with
  | some label => (label, b)
  | none => b.assign v scheme reserved

/-- Append bindings up to the first whose label is there already; that label comes second. The
numbering is not touched. -/
def merge (b : Bindings) : List Binding → Bindings × Option String
  | [] => (b, none)
  | e :: rest =>
    if b.entries.any fun d => d.label == e.label then (b, some e.label)
    else merge { b with entries := b.entries ++ [e] } rest

/-- The declaration of a parameter. -/
def declare (e : Binding) : String := e.value.className ++ " " ++ e.label

/-- The declaration of all parameters, if there are any. -/
def declaration (b : Bindings) : Option String :=
  if b.entries.isEmpty then none else some (", ".intercalate (b.entries.map declare))

end Bindings

/-- The JSON form of a binding. -/
def Binding.toJson (e : Binding) : Json :=
  .object [("label", .string e.label), ("value", e.value.toJson)]

/-- The JSON form of bindings. -/
def Bindings.toJson (b : Bindings) : Json :=
  .object [("entries", .array (b.entries.map Binding.toJson))]

end StoreQuery
