import StoreQuery.Proofs.Clause.Leaves
import StoreQuery.Proofs.Parameters.Labels
import StoreQuery.Proofs.Value.Equality

/-!
# What a clause declares

A clause that is written declares a parameter for each of its literals, except for null and for
those that equal an earlier one. `LabelScheme.declare` says this of the list of literals, without
a word on labels that are looked up or on numbers that run ahead.

* `Value.firsts` are the literals that are kept;
* `Pass.entries_foldl_bind` : the bindings that literals give, one after another, are the declared
  ones.
-/

namespace StoreQuery

/-- The values that are not null and equal none of `seen` and none before them. Equality is not
reflexive: of values that differ from themselves every one is kept. -/
def Value.firsts (seen : List Value) : List Value → List Value
  | [] => []
  | v :: vs =>
    if v.isNull || seen.any (· == v) then firsts (seen ++ [v]) vs
    else v :: firsts (seen ++ [v]) vs

theorem Value.isNull_of_mem_firsts {seen vs : List Value} {v : Value} (h : v ∈ firsts seen vs) :
    v.isNull = false := by
  fun_induction firsts seen vs with
  | case1 => cases h
  | case2 seen w ws _ ih => exact ih h
  | case3 seen w ws hw ih =>
    obtain rfl | h := List.mem_cons.1 h
    · simp only [Bool.or_eq_true, not_or, Bool.not_eq_true] at hw
      exact hw.1
    · exact ih h

/-- The parameters for some literals: the first labels that are not reserved, each with the value
that it stands for. -/
def LabelScheme.declare (scheme : LabelScheme) (reserved : List String) (literals : List Value) :
    List Binding :=
  let values := Value.firsts [] literals
  List.zipWith Binding.mk (scheme.unreserved reserved values.length) values

namespace Binding

theorem map_label_zipWith {labels : List String} {values : List Value}
    (h : labels.length = values.length) :
    (List.zipWith Binding.mk labels values).map (·.label) = labels := by
  induction labels generalizing values with
  | nil => rfl
  | cons label labels ih =>
    obtain _ | ⟨v, values⟩ := values
    · cases h
    · simp [ih (Nat.succ.inj h)]

theorem map_value_zipWith {labels : List String} {values : List Value}
    (h : labels.length = values.length) :
    (List.zipWith Binding.mk labels values).map (·.value) = values := by
  induction labels generalizing values with
  | nil => exact (List.length_eq_zero_iff.1 h.symm).symm
  | cons label labels ih =>
    obtain _ | ⟨v, values⟩ := values
    · cases h
    · simp [ih (Nat.succ.inj h)]

theorem zipWith_label_value (entries : List Binding) :
    List.zipWith Binding.mk (entries.map (·.label)) (entries.map (·.value)) = entries := by
  induction entries with
  | nil => rfl
  | cons entry entries ih => simp [ih]

end Binding

namespace LabelScheme

variable (scheme : LabelScheme) (reserved : List String) (literals : List Value)

theorem labels_declare : (scheme.declare reserved literals).map (·.label) =
    scheme.unreserved reserved (Value.firsts [] literals).length :=
  Binding.map_label_zipWith (scheme.length_unreserved reserved _)

theorem values_declare :
    (scheme.declare reserved literals).map (·.value) = Value.firsts [] literals :=
  Binding.map_value_zipWith (scheme.length_unreserved reserved _)

/-- What is declared has labels of the scheme. -/
theorem exists_label_of_mem_declare {scheme : LabelScheme} {reserved : List String}
    {literals : List Value} {b : Binding} (h : b ∈ scheme.declare reserved literals) :
    ∃ n, scheme.label n = b.label := by
  have : b.label ∈ (scheme.declare reserved literals).map (·.label) := List.mem_map_of_mem h
  rw [labels_declare] at this
  exact scheme.exists_of_mem_unreserved reserved this

end LabelScheme

namespace Bindings

theorem labelOf?_eq_none_iff {b : Bindings} {v : Value} :
    b.labelOf? v = none ↔ b.entries.any (·.value == v) = false := by
  simp [labelOf?]

end Bindings

namespace Pass

variable (p : Pass) {scheme : LabelScheme} (hs : p.scheme? = some scheme)
include hs

theorem bind_eq (b : Bindings) (v : Value) :
    p.bind b v = if v.isNull || b.entries.any (·.value == v) then b
      else (b.assign v scheme p.reserved).2 := by
  simp only [bind, hs]
  cases v.isNull with
  | true => rfl
  | false =>
    simp only [Bindings.labelFor, Bool.false_or]
    cases hl : b.labelOf? v with
    | none => simp [Bindings.labelOf?_eq_none_iff.1 hl]
    | some label =>
      have : b.entries.any (·.value == v) = true := by
        by_contra hany
        rw [Bool.not_eq_true, ← Bindings.labelOf?_eq_none_iff, hl] at hany
        cases hany
      rw [this]
      rfl

end Pass

/-- The values with a label equal what any of the values seen so far equals. -/
def Bindings.Covers (b : Bindings) (seen : List Value) : Prop :=
  ∀ v : Value, v.isNull = false → b.entries.any (·.value == v) = seen.any (· == v)

namespace Pass

variable (p : Pass) {scheme : LabelScheme} (hs : p.scheme? = some scheme)
include hs

theorem covers_bind {b : Bindings} {seen : List Value} (h : b.Covers seen) (v : Value) :
    (p.bind b v).Covers (seen ++ [v]) := by
  intro w hw
  rw [p.bind_eq hs, List.any_append, List.any_cons, List.any_nil, Bool.or_false, ← h w hw]
  cases hv : v.isNull with
  | true =>
    have : (v == w) = false := by
      rw [Value.eq_null_of_isNull hv]
      exact Value.null_beq hw
    simp [this]
  | false =>
    cases hany : b.entries.any (·.value == v) with
    | false => simp [Bindings.assign]
    | true =>
      -- What equals a literal that is not kept equals the one that stands for it.
      simp only [Bool.or_true, if_true]
      cases hvw : v == w with
      | false => simp
      | true =>
        obtain ⟨entry, hentry, heq⟩ := List.any_eq_true.1 hany
        rw [Bool.or_true]
        exact List.any_eq_true.2 ⟨entry, hentry, Value.beq_trans heq hvw⟩

theorem foldl_bind (vs : List Value) {b : Bindings} {seen : List Value} (h : b.Covers seen)
    (hlabels : b.labels = scheme.freeBelow p.reserved b.next) :
    (vs.foldl p.bind b).values = b.values ++ Value.firsts seen vs ∧
      (vs.foldl p.bind b).labels = scheme.freeBelow p.reserved (vs.foldl p.bind b).next := by
  induction vs generalizing b seen with
  | nil => exact ⟨by simp [Value.firsts], hlabels⟩
  | cons v vs ih =>
    have covers := p.covers_bind hs h v
    rw [List.foldl_cons, Value.firsts]
    rw [p.bind_eq hs] at covers ⊢
    -- Null and what was seen bind nothing; anything else takes the next free label.
    cases hv : v.isNull with
    | true =>
      rw [hv] at covers
      exact ih covers hlabels
    | false =>
      rw [hv, h v hv, Bool.false_or] at covers
      rw [h v hv, Bool.false_or]
      cases hseen : seen.any (· == v) with
      | true =>
        rw [hseen] at covers
        exact ih covers hlabels
      | false =>
        rw [hseen] at covers
        obtain ⟨values, labels⟩ := ih covers (by
          rw [if_neg Bool.false_ne_true, Bindings.labels_assign, hlabels]
          exact (scheme.freeBelow_nextFree p.reserved b.next).symm)
        refine ⟨?_, labels⟩
        rw [values, if_neg Bool.false_ne_true, Bindings.values_assign]
        simp

/-- The bindings that literals give, one after another, are the declared ones. -/
theorem entries_foldl_bind (vs : List Value) :
    (vs.foldl p.bind .empty).entries = scheme.declare p.reserved vs := by
  have covers : Bindings.empty.Covers [] := fun _ _ => rfl
  obtain ⟨values, labels⟩ := p.foldl_bind hs vs covers rfl
  rw [LabelScheme.declare]
  generalize vs.foldl p.bind .empty = b at values labels ⊢
  have count : (scheme.freeBelow p.reserved b.next).length = (Value.firsts [] vs).length := by
    rw [← labels, ← show b.values = Value.firsts [] vs from values]
    simp [Bindings.labels, Bindings.values]
  calc b.entries
      = List.zipWith Binding.mk b.labels b.values := (Binding.zipWith_label_value _).symm
    _ = List.zipWith Binding.mk (scheme.unreserved p.reserved (Value.firsts [] vs).length)
          (Value.firsts [] vs) := by
        rw [labels, scheme.freeBelow_eq_unreserved p.reserved b.next, count, values]
        rfl

end Pass

end StoreQuery
