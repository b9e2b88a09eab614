import StoreQuery.Value

/-!
# Equality of values

Equality of values is transitive, but a NaN differs from itself. What equals null is null.

The two zeros are equal numbers with different bits, and no other two patterns are. So values that
are equal are the same bit for bit, except that a zero may have the other sign.

* `Value.beq_trans` : equality is transitive;
* `Value.dropZeroSigns` makes every zero of a value positive;
* `Value.dropZeroSigns_eq_of_beq` : of values that are equal it makes the same;
* `Value.eq_of_dropZeroSigns_eq` : without a zero they were the same before.
-/

namespace StoreQuery

/-! ### Transitivity -/

theorem Binary64.numEq_trans {x y z : Binary64} (h : x.numEq y = true) (k : y.numEq z = true) :
    x.numEq z = true := by
  simp only [numEq, Bool.and_eq_true, Bool.or_eq_true, Bool.not_eq_true', beq_iff_eq] at h k ⊢
  obtain ⟨⟨hx, -⟩, hxy⟩ := h
  obtain ⟨⟨-, hz⟩, hyz⟩ := k
  refine ⟨⟨hx, hz⟩, ?_⟩
  obtain rfl | ⟨hx, hy⟩ := hxy
  · exact hyz
  · obtain rfl | ⟨-, hz⟩ := hyz
    · exact .inr ⟨hx, hy⟩
    · exact .inr ⟨hx, hz⟩

namespace Value

mutual
/-- Equality of values is transitive. -/
theorem beq_trans {u v w : Value} (h : beq u v = true) (k : beq v w = true) :
    beq u w = true := by
  -- Values of different kinds are not equal.
  cases u <;> cases v <;> first | (simp [beq] at h; done) | skip
  all_goals cases w <;> first | (simp [beq] at k; done) | skip
  case object.object.object as bs cs => exact beqFields_trans as bs cs h k
  case double.double.double x y z => exact Binary64.numEq_trans h k
  all_goals
    simp only [beq, beq_iff_eq] at h k ⊢
    try exact h.trans k

theorem beqFields_trans : ∀ as bs cs : List (String × Value), beqFields as bs = true →
    beqFields bs cs = true → beqFields as cs = true
  | [], [], [], _, _ => rfl
  | [], [], _ :: _, _, k => by cases k
  | [], _ :: _, _, h, _ => by cases h
  | _ :: _, [], _, h, _ => by cases h
  | _ :: _, _ :: _, [], _, k => by cases k
  | (n, a) :: as, (m, b) :: bs, (l, c) :: cs, h, k => by
    simp only [beqFields, Bool.and_eq_true, beq_iff_eq] at h k ⊢
    obtain ⟨⟨rfl, hab⟩, has⟩ := h
    obtain ⟨⟨rfl, hbc⟩, hbs⟩ := k
    exact ⟨⟨rfl, beq_trans hab hbc⟩, beqFields_trans as bs cs has hbs⟩
end

theorem eq_null_of_isNull {v : Value} (h : v.isNull = true) : v = .null := by
  cases v <;> first | rfl | cases h

theorem null_beq {v : Value} (h : v.isNull = false) : (Value.null == v) = false := by
  cases v <;> first | cases h; done | rfl

end Value

/-! ### The signs of zeros -/

namespace Binary64

/-- The pattern itself, or the positive zero for either of the two zeros. -/
def dropZeroSign (x : Binary64) : Binary64 := if x.isZero then zero else x

theorem dropZeroSign_eq_of_numEq {x y : Binary64} (h : x.numEq y = true) :
    x.dropZeroSign = y.dropZeroSign := by
  simp only [numEq, Bool.and_eq_true, Bool.or_eq_true, beq_iff_eq] at h
  obtain ⟨-, rfl | ⟨hx, hy⟩⟩ := h
  · rfl
  · rw [dropZeroSign, dropZeroSign, if_pos hx, if_pos hy]

end Binary64

namespace Value

mutual
/-- The value with every zero made positive. -/
def dropZeroSigns : Value → Value
  | .double x => .double x.dropZeroSign
  | .object fields => .object (dropZeroSignsFields fields)
  | v => v

/-- Fields with every zero made positive. -/
def dropZeroSignsFields : List (String × Value) → List (String × Value)
  | [] => []
  | (name, v) :: rest => (name, dropZeroSigns v) :: dropZeroSignsFields rest
end

mutual
/-- There is a zero in the value. -/
def hasZero : Value → Bool
  | .double x => x.isZero
  | .object fields => hasZeroFields fields
  | _ => false

/-- There is a zero in one of the fields. -/
def hasZeroFields : List (String × Value) → Bool
  | [] => false
  | (_, v) :: rest => hasZero v || hasZeroFields rest
end

mutual
/-- Values that are equal are the same up to the signs of zeros. -/
theorem dropZeroSigns_eq_of_beq {u v : Value} (h : beq u v = true) :
    u.dropZeroSigns = v.dropZeroSigns := by
  -- Values of different kinds are not equal.
  cases u <;> cases v <;> first | (simp [beq] at h; done) | skip
  case object.object as bs =>
    rw [dropZeroSigns, dropZeroSigns, dropZeroSignsFields_eq_of_beq as bs h]
  case double.double x y =>
    rw [dropZeroSigns, dropZeroSigns, Binary64.dropZeroSign_eq_of_numEq h]
  case null.null => rfl
  all_goals
    simp only [beq, beq_iff_eq] at h
    rw [h]

theorem dropZeroSignsFields_eq_of_beq : ∀ as bs : List (String × Value),
    beqFields as bs = true → dropZeroSignsFields as = dropZeroSignsFields bs
  | [], [], _ => rfl
  | [], _ :: _, h => by cases h
  | _ :: _, [], h => by cases h
  | (n, a) :: as, (m, b) :: bs, h => by
    simp only [beqFields, Bool.and_eq_true, beq_iff_eq] at h
    obtain ⟨⟨rfl, hab⟩, has⟩ := h
    rw [dropZeroSignsFields, dropZeroSignsFields, dropZeroSigns_eq_of_beq hab,
      dropZeroSignsFields_eq_of_beq as bs has]
end

mutual
/-- Where there is no zero, two values differ in more than the signs of zeros. -/
theorem eq_of_dropZeroSigns_eq {u v : Value} (h : u.dropZeroSigns = v.dropZeroSigns)
    (hv : v.hasZero = false) : u = v := by
  cases u <;> cases v <;> first | (simp [dropZeroSigns] at h; done) | skip
  case object.object as bs =>
    simp only [dropZeroSigns, object.injEq] at h
    rw [eq_of_dropZeroSignsFields_eq as bs h hv]
  case double.double x y =>
    simp only [dropZeroSigns, double.injEq, Binary64.dropZeroSign, hasZero] at h hv
    rw [hv] at h
    -- The first cannot be a zero either, since a zero would have been kept.
    cases hx : x.isZero with
    | false =>
      rw [hx] at h
      exact congrArg Value.double h
    | true =>
      rw [hx] at h
      rw [← show Binary64.zero = y from h] at hv
      exact absurd hv (by decide)
  case null.null => rfl
  all_goals simpa only [dropZeroSigns] using h

theorem eq_of_dropZeroSignsFields_eq : ∀ as bs : List (String × Value),
    dropZeroSignsFields as = dropZeroSignsFields bs → hasZeroFields bs = false → as = bs
  | [], [], _, _ => rfl
  | [], _ :: _, h, _ => by cases h
  | _ :: _, [], h, _ => by cases h
  | (n, a) :: as, (m, b) :: bs, h, hb => by
    simp only [dropZeroSignsFields, List.cons.injEq, Prod.mk.injEq] at h
    simp only [hasZeroFields, Bool.or_eq_false_iff] at hb
    obtain ⟨⟨rfl, hab⟩, has⟩ := h
    rw [eq_of_dropZeroSigns_eq hab hb.1, eq_of_dropZeroSignsFields_eq as bs has hb.2]
end

end Value

end StoreQuery
