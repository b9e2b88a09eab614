import Mathlib.Data.List.Dedup
import Mathlib.Data.List.Induction
import StoreQuery.Proofs.Parameters.History

/-!
# Drawing labels

The next free label is found by drawing: labels are made one after another, and each that is
reserved is dropped. The index is a 64-bit word. Drawing ends because labels differ, so that every
draw that is dropped uses up another of the reserved names.

* `LabelScheme.label64?` : the label of a word, unless its number is beyond the words;
* `LabelScheme.draw` : the loop, with a limit on the draws;
* `LabelScheme.le_add_length_dedup` : no more labels are dropped than there are reserved names;
* `LabelScheme.draw_eq` : with so many draws and one more, the loop ends at the first free label;
* `Bindings.next_label_drawn` : **a new value is given that label**, and a single scheme never gives
  a label twice.
-/

namespace StoreQuery

/-! ### Words -/

/-- The word after a word, unless it is the last. -/
def next64? (i : UInt64) : Option UInt64 :=
  if i.toNat + 1 < UInt64.size then some (i + 1) else none

theorem next64?_ofNat {n : Nat} (h : n + 1 < UInt64.size) :
    next64? (.ofNat n) = some (.ofNat (n + 1)) := by
  have word : (UInt64.ofNat n).toNat = n := UInt64.toNat_ofNat_of_lt' (by omega)
  rw [next64?, word, if_pos h, UInt64.ofNat_add]
  rfl

namespace LabelScheme

/-- The label of a word. A word with a number is followed by the next word, which must exist. -/
def label64? : LabelScheme → UInt64 → Option String
  | .alphabetic, i =>
    some (if i < 26 then letter i.toNat else letter (i % 26).toNat ++ toString (i / 26))
  | .numbered word, i => (next64? i).map fun n => word ++ toString n

/-- Before the last word, every word has the label of its number. -/
theorem label64?_ofNat (scheme : LabelScheme) {n : Nat} (h : n + 1 < UInt64.size) :
    scheme.label64? (.ofNat n) = some (scheme.label n) := by
  have word {n : Nat} (h : n < UInt64.size) : (UInt64.ofNat n).toNat = n :=
    UInt64.toNat_ofNat_of_lt' h
  have text (i : UInt64) : toString i = toString i.toNat := rfl
  cases scheme with
  | alphabetic =>
    simp only [label64?, label, UInt64.lt_iff_toNat_lt, text, UInt64.toNat_mod, UInt64.toNat_div,
      word (Nat.lt_of_succ_lt h)]
    rfl
  | numbered name =>
    rw [label64?, label, next64?_ofNat h, Option.map_some, text, word h]

/-! ### The loop -/

/-- Draw labels from a word on until one is not reserved. The result is this label and the word to
go on with; there is none if the draws or the words are used up first. -/
def draw (scheme : LabelScheme) (reserved : List String) : Nat → UInt64 → Option (String × UInt64)
  | 0, _ => none
  | draws + 1, i => do
    let label ← scheme.label64? i
    let next ← next64? i
    if label ∈ reserved then draw scheme reserved draws next else some (label, next)

variable {scheme : LabelScheme} {reserved : List String}

/-- No more labels are dropped than there are different reserved names. -/
theorem le_add_length_dedup {n m : Nat} (skipped : ∀ i, n ≤ i → i < m → scheme.label i ∈ reserved) :
    m ≤ n + reserved.dedup.length := by
  have dropped : ∀ i ∈ List.range' n (m - n), scheme.label i ∈ reserved.dedup := by
    intro i hi
    rw [List.mem_range'_1] at hi
    exact List.mem_dedup.2 (skipped i hi.1 (by omega))
  have := scheme.length_le_of_forall_label_mem (List.nodup_range' 1) dropped
  rw [List.length_range'] at this
  omega

/-- The loop ends at the first label that is not reserved, if there are draws enough to come to
it. -/
theorem draw_eq {n m : Nat} (hle : n ≤ m) (free : scheme.label m ∉ reserved)
    (skipped : ∀ i, n ≤ i → i < m → scheme.label i ∈ reserved) (room : m + 1 < UInt64.size)
    (draws : Nat) : scheme.draw reserved draws (.ofNat n) =
      if m - n < draws then some (scheme.label m, .ofNat (m + 1)) else none := by
  induction draws generalizing n with
  | zero => rfl
  | succ draws ih =>
    have drawn : scheme.draw reserved (draws + 1) (.ofNat n) =
        if scheme.label n ∈ reserved then scheme.draw reserved draws (.ofNat (n + 1))
        else some (scheme.label n, .ofNat (n + 1)) := by
      rw [draw, label64?_ofNat scheme (by omega), next64?_ofNat (by omega)]
      rfl
    rw [drawn]
    obtain rfl | hlt := Nat.eq_or_lt_of_le hle
    · rw [if_neg free, if_pos (by omega)]
    · rw [if_pos (skipped n (Nat.le_refl n) hlt), ih hlt fun i hi => skipped i (by omega)]
      by_cases enough : m - (n + 1) < draws
      · rw [if_pos enough, if_pos (by omega)]
      · rw [if_neg enough, if_neg (by omega)]

end LabelScheme

namespace Bindings

namespace History

/-- Values are labelled one after another by a single scheme; the reserved names may change. -/
def labelled (scheme : LabelScheme) (calls : List (Value × List String)) : History :=
  calls.foldl (fun h call => h.label call.1 scheme call.2) .empty

theorem labelled_snoc (scheme : LabelScheme) (calls : List (Value × List String))
    (call : Value × List String) :
    labelled scheme (calls ++ [call]) = (labelled scheme calls).label call.1 scheme call.2 := by
  rw [labelled, List.foldl_append]
  rfl

/-- No label is foreign to the only scheme. -/
theorem foreign_labelled (scheme : LabelScheme) (calls : List (Value × List String)) :
    (labelled scheme calls).foreign scheme = [] := by
  induction calls using List.reverseRecOn with
  | nil => rfl
  | append_singleton calls call ih => rw [labelled_snoc, foreign, if_pos (.inl rfl), ih]

theorem fresh_labelled (scheme : LabelScheme) (calls : List (Value × List String)) :
    (labelled scheme calls).Fresh := by
  induction calls using List.reverseRecOn with
  | nil => trivial
  | append_singleton calls call ih =>
    rw [labelled_snoc]
    refine ⟨ih, ?_⟩
    intro _
    rw [foreign_labelled]
    exact List.not_mem_nil

end History

/-- The label of a new value, found by drawing: it has the smallest number from the counter on of
which the label is not reserved. -/
structure Draws (b : Bindings) (v : Value) (scheme : LabelScheme) (reserved : List String)
    (m : Nat) : Prop where
  /-- The number is not below the counter. -/
  counter_le : b.next ≤ m
  /-- There are no more draws before than different reserved names. -/
  le_add : m ≤ b.next + reserved.dedup.length
  /-- The label is not reserved. -/
  free : scheme.label m ∉ reserved
  /-- All labels before are. -/
  skipped : ∀ i, b.next ≤ i → i < m → scheme.label i ∈ reserved
  /-- With one draw for each and one more the loop ends, and not with fewer. -/
  draw : ∀ draws, scheme.draw reserved draws (.ofNat b.next) =
    if m - b.next < draws then some (scheme.label m, .ofNat (m + 1)) else none
  /-- One binding is appended, and the counter comes after the number. -/
  labelFor : b.labelFor v scheme reserved =
    (scheme.label m, ⟨b.entries ++ [⟨scheme.label m, v⟩], m + 1⟩)

theorem exists_draws {b : Bindings} {v : Value} (new : ∀ e ∈ b.entries, (e.value == v) = false)
    (scheme : LabelScheme) {reserved : List String}
    (room : b.next + reserved.dedup.length + 1 < UInt64.size) :
    ∃ m, b.Draws v scheme reserved m := by
  obtain ⟨hle, free, skipped⟩ := scheme.nextFree_spec reserved b.next
  have bound := LabelScheme.le_add_length_dedup skipped
  have unlabelled : b.labelOf? v = none := by
    rw [labelOf?_eq_none_iff, List.any_eq_false]
    intro e he
    rw [new e he]
    exact Bool.false_ne_true
  exact ⟨_, {
    counter_le := hle
    le_add := bound
    free := free
    skipped := skipped
    draw := LabelScheme.draw_eq hle free skipped (by omega)
    labelFor := by rw [Bindings.labelFor, unlabelled]; rfl }⟩

/-- **A new value is given the next free label.** Labels with different numbers differ, and words
before the last have the labels of their numbers. So, far enough from the last word, the loop ends
after at most one more draw than there are different reserved names, at the smallest number from the
counter on of which the label is not reserved; one binding is appended, and the counter comes after
that number. If all labels are drawn by one scheme, none is given twice. -/
theorem next_label_drawn (scheme : LabelScheme) :
    (∀ m n, scheme.label m = scheme.label n → m = n) ∧
    (∀ n, n < UInt64.size - 1 → scheme.label64? (.ofNat n) = some (scheme.label n)) ∧
    (∀ (b : Bindings) (v : Value) (reserved : List String),
      (∀ e ∈ b.entries, (e.value == v) = false) →
      b.next + reserved.dedup.length < UInt64.size - 1 → ∃ m, b.Draws v scheme reserved m) ∧
    ∀ calls, (History.labelled scheme calls).bindings.labels.Nodup := by
  refine ⟨fun m n => scheme.label_injective, fun n h => scheme.label64?_ofNat (by omega), ?_, ?_⟩
  · intro b v reserved new room
    exact exists_draws new scheme (by omega)
  · intro calls
    exact (History.nodup_labels_iff _).2 (History.fresh_labelled scheme calls)

/-- The value one has the label `a`. -/
def one : Bindings := ⟨[⟨"a", .int 1⟩], 1⟩

theorem next_label_drawn_one :
    one.Draws (.int 2) .alphabetic ["b", "d", "b"] 2 ∧
    LabelScheme.draw .alphabetic ["b", "d", "b"] 1 1 = none ∧
    LabelScheme.draw .alphabetic ["b", "d", "b"] 2 1 = some ("c", 3) ∧
    (one.labelFor (.int 2) .alphabetic ["b", "d", "b"]).2.labels = ["a", "c"] := by
  obtain ⟨-, -, drawn, -⟩ := next_label_drawn .alphabetic
  obtain ⟨m, hm⟩ := drawn one (.int 2) ["b", "d", "b"] (List.forall_mem_singleton.2 rfl) (by decide)
  obtain rfl : m = 2 := by
    have after : 1 ≤ m := hm.counter_le
    have not_one : m ≠ 1 := by
      rintro rfl
      exact hm.free (by decide +kernel)
    by_contra h
    exact absurd (hm.skipped 2 (by decide) (by omega)) (by decide +kernel)
  refine ⟨hm, hm.draw 1, hm.draw 2, ?_⟩
  rw [hm.labelFor]
  rfl

end Bindings

end StoreQuery
