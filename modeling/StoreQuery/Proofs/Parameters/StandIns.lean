import StoreQuery.Proofs.Clause.RoundTrip
import StoreQuery.Proofs.Parameters.History
import StoreQuery.Proofs.Parameters.Passes
import StoreQuery.Proofs.Value.Equality

/-!
# What is bound for a literal

The label that is written for a literal is bound to that literal or, since equal values share a
label, to the first of the literals before it that equals it. This is the same value, except that a
zero in it may have the other sign.

* `Value.standIn` is the value that is bound for a literal after others;
* `Pass.literal_bound` : at every place of a text, the label of a literal is bound to what stands in
  for it.
-/

namespace StoreQuery

namespace Value

/-- The first of some values that equals `v`, or `v` if there is none. -/
def standIn (earlier : List Value) (v : Value) : Value := (earlier.find? (· == v)).getD v

/-- What stands in for a value is the same up to the signs of zeros. -/
theorem dropZeroSigns_standIn (earlier : List Value) (v : Value) :
    (v.standIn earlier).dropZeroSigns = v.dropZeroSigns := by
  rw [standIn]
  cases h : earlier.find? (· == v) with
  | none => rfl
  | some w => exact dropZeroSigns_eq_of_beq (List.find?_some (p := (· == v)) h)

/-- A value that equals one of the values before it need not be kept to find what stands in for
another value. -/
theorem find?_firsts {v : Value} (hv : v.isNull = false) {seen vs : List Value}
    (hseen : seen.any (· == v) = false) : (firsts seen vs).find? (· == v) = vs.find? (· == v) := by
  induction vs generalizing seen with
  | nil => rfl
  | cons w ws ih =>
    cases hw : w == v with
    | true =>
      -- What equals `w` equals `v`, so that `w` is the first and is kept.
      have kept : (w.isNull || seen.any (· == w)) = false := by
        rw [Bool.or_eq_false_iff, List.any_eq_false]
        rw [List.any_eq_false] at hseen
        refine ⟨?_, fun u hu huw => hseen u hu (beq_trans huw hw)⟩
        cases hnull : w.isNull with
        | false => rfl
        | true =>
          rw [eq_null_of_isNull hnull, null_beq hv] at hw
          cases hw
      rw [firsts, kept, if_neg Bool.false_ne_true]
      simp only [List.find?_cons, hw]
    | false =>
      have hseen' : (seen ++ [w]).any (· == v) = false := by simp [hseen, hw]
      rw [firsts]
      split
      · simp only [List.find?_cons, hw, ih hseen']
      · simp only [List.find?_cons, hw, ih hseen']

end Value

namespace Bindings

/-- The label of a value is bound to what stands in for it among the values with a label. -/
theorem labelFor_binds (b : Bindings) (v : Value) (scheme : LabelScheme) (reserved : List String) :
    ⟨(b.labelFor v scheme reserved).1, v.standIn b.values⟩ ∈
      (b.labelFor v scheme reserved).2.entries := by
  have found : b.values.find? (· == v) = (b.entries.find? (·.value == v)).map (·.value) := by
    rw [values, List.find?_map]
    rfl
  rw [Value.standIn, found, labelFor, labelOf?]
  cases h : b.entries.find? (·.value == v) with
  | none => simp [assign]
  | some e => exact List.mem_of_find?_eq_some h

end Bindings

namespace Pass

variable (p : Pass)

/-- A mark that is refused binds nothing. -/
theorem mark_bindings_of_refused {m : Mark} (h : p.accepts m = false) (b : Bindings) :
    (p.mark m b).bindings = b := by
  match m with
  | .refuse _ => rfl
  | .leaf (.literal v) =>
    simp only [accepts, Bool.or_eq_false_iff, Option.isSome_eq_false_iff,
      Option.isNone_iff_eq_none] at h
    simp [mark, leaf, literal, h, Writer.fail]

/-- Literals are bound up to the first mark that is refused. -/
theorem markAll_bindings_takeWhile (ms : List Mark) (b : Bindings) :
    (p.markAll ms b).bindings =
      ((ms.takeWhile p.accepts).filterMap Mark.literal?).foldl p.bind b := by
  induction ms generalizing b with
  | nil => rfl
  | cons m ms ih =>
    rw [markAll_cons, Writer.andThen]
    cases hm : p.accepts m with
    | true =>
      simp only [(p.mark_error? m b).2 hm, List.takeWhile_cons_of_pos hm, ih, List.filterMap_cons,
        mark_bindings]
      cases m.literal? <;> rfl
    | false =>
      have hskip : ¬ p.accepts m = true := Bool.not_eq_true _ ▸ hm
      obtain ⟨e, he⟩ := Option.ne_none_iff_exists'.1 (hskip ∘ (p.mark_error? m b).1)
      simp only [he, List.takeWhile_cons_of_neg hskip, p.mark_bindings_of_refused hm]
      rfl

section Labels

variable {p} {scheme : LabelScheme} (hs : p.scheme? = some scheme)
include hs

/-- The labels that literals are given differ. -/
theorem nodup_labels_foldl_bind (vs : List Value) : (vs.foldl p.bind .empty).labels.Nodup := by
  have covers : Bindings.empty.Covers [] := fun _ _ => rfl
  rw [(p.foldl_bind hs vs covers rfl).2]
  exact scheme.nodup_freeBelow p.reserved _

/-- After some literals, what stands in for another is one of them. -/
theorem standIn_foldl_bind (vs : List Value) {v : Value} (hv : v.isNull = false) :
    v.standIn (vs.foldl p.bind .empty).values = v.standIn vs := by
  have covers : Bindings.empty.Covers [] := fun _ _ => rfl
  rw [(p.foldl_bind hs vs covers rfl).1]
  exact congrArg (Option.getD · v) (@Value.find?_firsts v hv [] vs rfl)

/-- The label that a literal is given after others is bound to what stands in for it. -/
theorem literal_mem_entries (vs : List Value) {v : Value} (hv : v.isNull = false) :
    ⟨(p.literal v (vs.foldl p.bind .empty)).text, v.standIn vs⟩ ∈
      (p.bind (vs.foldl p.bind .empty) v).entries := by
  have h := (vs.foldl p.bind .empty).labelFor_binds v scheme p.reserved
  rw [standIn_foldl_bind hs vs hv] at h
  simpa [literal, bind, hv, hs, Writer.text] using h

/-- **The label of a literal is bound to it**, up to the signs of zeros. At the place of a literal
that is not null, the text has a label. In the end this label is bound to the first of the literals
up to there that equals the literal, which differs from it in the signs of zeros at most, or to the
literal itself if none before it equals it. It does not matter whether what comes after is
refused. -/
theorem literal_bound {separator : String} {xs : List Expr} {before after : List Mark} {v : Value}
    (hmarks : p.patterns.joinedMarks separator xs = before ++ .leaf (.literal v) :: after)
    (hbefore : ∀ m ∈ before, p.accepts m = true) (hv : v.isNull = false) :
    let written := p.writeList separator xs .empty
    let start := p.markAll before .empty
    let here := p.literal v start.bindings
    let bound := v.standIn (before.filterMap Mark.literal?)
    written.text = start.text ++ here.text ++ (p.markAll after here.bindings).text ∧
      written.bindings.get? here.text = some bound ∧
      bound.dropZeroSigns = v.dropZeroSigns ∧
      (v.hasZero = false → bound = v) := by
  intro written start here bound
  have accepted : p.accepts (.leaf (.literal v)) = true := by simp [accepts, hs]
  have hwritten : written =
      p.markAll (before ++ ([.leaf (.literal v)] ++ after)) .empty := by
    rw [List.singleton_append, ← hmarks, ← writeList_eq_marks]
  have same : bound.dropZeroSigns = v.dropZeroSigns := Value.dropZeroSigns_standIn _ v
  refine ⟨?_, ?_, same, Value.eq_of_dropZeroSigns_eq same⟩
  · have here_accepted : ∀ m ∈ [Mark.leaf (.literal v)], p.accepts m = true := by simp [accepted]
    rw [hwritten, p.markAll_text_append hbefore, p.markAll_text_append here_accepted,
      markAll_singleton, String.append_assoc]
    rfl
  · -- What comes after only adds bindings, and all of them have different labels.
    let vs := before.filterMap Mark.literal?
    let more := (after.takeWhile p.accepts).filterMap Mark.literal?
    have hstart : start.bindings = vs.foldl p.bind .empty := p.markAll_bindings hbefore _
    have hfinal : written.bindings = (vs ++ v :: more).foldl p.bind .empty := by
      rw [hwritten, markAll_bindings_takeWhile, List.takeWhile_append_of_pos hbefore,
        List.singleton_append, List.takeWhile_cons_of_pos accepted, List.filterMap_append]
      rfl
    have entry := literal_mem_entries hs vs hv
    rw [← hstart] at entry
    have entry_final : ⟨here.text, bound⟩ ∈ written.bindings.entries := by
      rw [hfinal, List.foldl_append, List.foldl_cons, ← hstart]
      exact (p.foldl_bind_prefix more _).subset entry
    have nodup : written.bindings.labels.Nodup := by
      rw [hfinal]
      exact nodup_labels_foldl_bind hs _
    exact Bindings.get?_of_mem nodup entry_final

end Labels

/-- An object with a number. -/
def pointAt (x : Binary64) : Value := .object [("x", .double x)]

/-- Two points whose zeros have different signs, and a number. -/
def points : List Expr :=
  [(Expr.ofPerson "at").eq (.literal (pointAt Binary64.zero.negate)),
    (Expr.ofPerson "at").ne (.literal (pointAt .zero)),
    (Expr.ofPerson "n").gt (.literal (.int 1))]

theorem literal_bound_points :
    let marks := ofPersons.patterns.joinedMarks ", " points
    let written := ofPersons.writeList ", " points .empty
    marks[6]? = some (.leaf (.literal (pointAt .zero))) ∧
      marks[10]? = some (.leaf (.literal (.int 1))) ∧
      written.text = "at == a, at != a, n > b" ∧
      written.bindings.get? "a" = some (pointAt Binary64.zero.negate) ∧
      (pointAt Binary64.zero.negate).dropZeroSigns = (pointAt .zero).dropZeroSigns ∧
      written.bindings.get? "b" = some (.int 1) := by
  intro marks written
  have second : marks = marks.take 6 ++ .leaf (.literal (pointAt .zero)) :: marks.drop 7 := rfl
  have third : marks = marks.take 10 ++ .leaf (.literal (.int 1)) :: [] := rfl
  obtain ⟨-, shared, same, -⟩ := literal_bound (p := ofPersons) rfl second (by decide) rfl
  obtain ⟨-, number, -, unchanged⟩ := literal_bound (p := ofPersons) rfl third (by decide) rfl
  have label_a : (ofPersons.literal (pointAt .zero)
      (ofPersons.markAll (marks.take 6) .empty).bindings).text = "a" := by decide +kernel
  have label_b : (ofPersons.literal (.int 1)
      (ofPersons.markAll (marks.take 10) .empty).bindings).text = "b" := by decide +kernel
  rw [label_a] at shared
  rw [label_b, unchanged rfl] at number
  exact ⟨rfl, rfl, by decide +kernel, shared, same, number⟩

/-- The negative zero is given the label of the positive one, and the label stays bound to that. -/
theorem negative_zero_bound_to_zero :
    let zero : Value := .double .zero
    let negative : Value := .double Binary64.zero.negate
    let xs := [Expr.literal zero, .literal negative]
    let before := [.leaf (.literal zero), .text ", "]
    let written := ofPersons.writeList ", " xs .empty
    ofPersons.patterns.joinedMarks ", " xs = before ++ [.leaf (.literal negative)] ∧
      written.error? = none ∧ written.text = "a, a" ∧
      (ofPersons.literal negative (ofPersons.markAll before .empty).bindings).text = "a" ∧
      written.bindings.get? "a" = some zero ∧ zero ≠ negative := by
  refine ⟨rfl, rfl, by decide +kernel, by decide +kernel, ?_, ?_⟩
  · with_unfolding_all rfl
  · intro h
    exact absurd (Value.double.inj h) (by decide)

end Pass

end StoreQuery
