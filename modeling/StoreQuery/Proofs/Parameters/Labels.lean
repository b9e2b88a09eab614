import Mathlib.Data.List.Nodup
import Mathlib.Data.List.Perm.Subperm
import StoreQuery.Bindings

/-!
# Labels that are not reserved

The labels of a scheme differ, so that a reserved name costs one label and no more.

* `LabelScheme.label_injective` : labels with different numbers differ;
* `LabelScheme.nextFree_spec`, `LabelScheme.nextFree_eq` : `nextFree` finds the first label that is
  not reserved;
* `LabelScheme.unreserved` lists the first labels that are not reserved, and
  `LabelScheme.freeBelow_eq_unreserved` finds them below any number.
-/

namespace StoreQuery

namespace LabelScheme

/-! ### Labels differ -/

theorem repr_injective {m n : Nat} (h : m.repr = n.repr) : m = n := by
  have digits : Nat.toDigits 10 m = Nat.toDigits 10 n := by
    rw [← Nat.toList_repr, ← Nat.toList_repr, h]
  have := congrArg (fun ds => Nat.ofDigitChars 10 ds 0) digits
  simpa using this

theorem isDigit_of_mem_repr {n : Nat} {c : Char} (h : c ∈ n.repr.toList) : c.isDigit = true := by
  rw [Nat.toList_repr] at h
  exact Nat.isDigit_of_mem_toDigits (by decide) (by decide) h

theorem letter_toList (n : Nat) : (letter n).toList = [Char.ofNat (97 + n)] := by
  simp [letter]

theorem letterChar_injective {m n : Nat} (hm : m < 26) (hn : n < 26)
    (h : Char.ofNat (97 + m) = Char.ofNat (97 + n)) : m = n := by
  revert h
  revert n
  revert m
  decide

/-- What follows the letter. -/
def rounds (n : Nat) : String := if n < 26 then "" else toString (n / 26)

theorem label_alphabetic (n : Nat) :
    label .alphabetic n = letter (n % 26) ++ rounds n := by
  rw [label, rounds]
  split
  · rename_i h
    simp [Nat.mod_eq_of_lt h]
  · rfl

theorem isDigit_of_mem_rounds {n : Nat} {c : Char} (h : c ∈ (rounds n).toList) :
    c.isDigit = true := by
  unfold rounds at h
  split at h
  · cases h
  · exact isDigit_of_mem_repr h

theorem rounds_injective {m n : Nat} (h : rounds m = rounds n) : m / 26 = n / 26 := by
  unfold rounds at h
  split at h <;> split at h
  · omega
  · exact absurd h.symm Nat.repr_ne_empty
  · exact absurd h Nat.repr_ne_empty
  · exact repr_injective h

/-- Labels with different numbers differ. -/
theorem label_injective (scheme : LabelScheme) {m n : Nat} (h : scheme.label m = scheme.label n) :
    m = n := by
  match scheme with
  | .alphabetic =>
    have : (label .alphabetic m).toList = (label .alphabetic n).toList := congrArg _ h
    simp only [label_alphabetic, String.toList_append, letter_toList, List.singleton_append,
      List.cons.injEq, String.toList_inj] at this
    have hmod := letterChar_injective (Nat.mod_lt _ (by decide)) (Nat.mod_lt _ (by decide)) this.1
    have hdiv := rounds_injective this.2
    omega
  | .numbered word =>
    have := repr_injective ((String.append_right_inj word).1 h)
    omega

theorem nodup_map_label (scheme : LabelScheme) {numbers : List Nat} (differ : numbers.Nodup) :
    (numbers.map scheme.label).Nodup := by
  refine differ.map ?_
  intro _ _ h
  exact scheme.label_injective h

/-- Labels with different numbers are so many names. -/
theorem length_le_of_forall_label_mem (scheme : LabelScheme) {numbers : List Nat}
    (differ : numbers.Nodup) {names : List String} (h : ∀ i ∈ numbers, scheme.label i ∈ names) :
    numbers.length ≤ names.length := by
  have subset : numbers.map scheme.label ⊆ names := by
    intro label hlabel
    obtain ⟨i, hi, rfl⟩ := List.mem_map.1 hlabel
    exact h i hi
  simpa using (List.subperm_of_subset (scheme.nodup_map_label differ) subset).length_le

/-! ### The next label -/

/-- `nextFree` finds the first label that is not reserved. -/
theorem nextFree_spec (scheme : LabelScheme) (reserved : List String) (n : Nat) :
    n ≤ scheme.nextFree reserved n ∧ scheme.label (scheme.nextFree reserved n) ∉ reserved ∧
      ∀ i, n ≤ i → i < scheme.nextFree reserved n → scheme.label i ∈ reserved := by
  induction hlen : reserved.length using Nat.strongRecOn generalizing reserved n with
  | ind length ih =>
    rw [nextFree]
    split
    · rename_i h
      have shorter : (reserved.filter (· != scheme.label n)).length < reserved.length :=
        List.length_filter_lt_length_iff_exists.2 ⟨_, h, by simp⟩
      obtain ⟨hle, hfree, hskipped⟩ := ih _ (hlen ▸ shorter) _ (n + 1) rfl
      dsimp only
      refine ⟨by omega, ?_, ?_⟩
      · -- The name that was left out is the label of a smaller number.
        intro hmem
        refine hfree (List.mem_filter.2 ⟨hmem, ?_⟩)
        rw [bne_iff_ne]
        intro heq
        have := scheme.label_injective heq
        omega
      · intro i hi hlt
        obtain rfl | hi := Nat.eq_or_lt_of_le hi
        · exact h
        · exact List.mem_of_mem_filter (hskipped i hi hlt)
    · rename_i h
      refine ⟨Nat.le_refl _, h, ?_⟩
      intro i hi hlt
      omega

/-- No other index is the first whose label is not reserved. -/
theorem nextFree_eq {scheme : LabelScheme} {reserved : List String} {n m : Nat} (hle : n ≤ m)
    (free : scheme.label m ∉ reserved)
    (skipped : ∀ i, n ≤ i → i < m → scheme.label i ∈ reserved) :
    scheme.nextFree reserved n = m := by
  obtain ⟨hle', free', skipped'⟩ := scheme.nextFree_spec reserved n
  rcases Nat.lt_trichotomy (scheme.nextFree reserved n) m with h | h | h
  · exact absurd (skipped _ hle' h) free'
  · exact h
  · exact absurd (skipped' m hle h) free

/-- Of the reserved names only the labels count. -/
theorem nextFree_congr {scheme : LabelScheme} {reserved reserved' : List String}
    (h : ∀ i, scheme.label i ∈ reserved' ↔ scheme.label i ∈ reserved) (n : Nat) :
    scheme.nextFree reserved' n = scheme.nextFree reserved n := by
  obtain ⟨hle, free, skipped⟩ := scheme.nextFree_spec reserved n
  refine nextFree_eq hle (fun taken => free ((h _).1 taken)) ?_
  intro i hi hlt
  exact (h i).2 (skipped i hi hlt)

/-! ### The first labels -/

/-- The labels with numbers below `n` that are not reserved. -/
def freeBelow (scheme : LabelScheme) (reserved : List String) (n : Nat) : List String :=
  ((List.range n).map scheme.label).filter (· ∉ reserved)

/-- The first labels that are not reserved. Each reserved name takes one label away at most. -/
def unreserved (scheme : LabelScheme) (reserved : List String) (count : Nat) : List String :=
  (scheme.freeBelow reserved (count + reserved.length)).take count

variable (scheme : LabelScheme) (reserved : List String)

theorem freeBelow_succ (n : Nat) : scheme.freeBelow reserved (n + 1) =
    scheme.freeBelow reserved n ++ if scheme.label n ∈ reserved then [] else [scheme.label n] := by
  simp only [freeBelow, List.range_succ, List.map_append, List.filter_append, List.map_cons,
    List.map_nil]
  split <;> simp [*]

/-- The next label is the one after those before it. -/
theorem freeBelow_nextFree (n : Nat) : scheme.freeBelow reserved (scheme.nextFree reserved n + 1) =
    scheme.freeBelow reserved n ++ [scheme.label (scheme.nextFree reserved n)] := by
  obtain ⟨hle, hfree, hskipped⟩ := scheme.nextFree_spec reserved n
  have skipped (k : Nat) : n + k ≤ scheme.nextFree reserved n →
      scheme.freeBelow reserved (n + k) = scheme.freeBelow reserved n := by
    induction k with
    | zero =>
      intro _
      rfl
    | succ k ih =>
      intro hk
      rw [← Nat.add_assoc, freeBelow_succ, if_pos (hskipped _ (by omega) (by omega)),
        List.append_nil, ih (by omega)]
  have := skipped (scheme.nextFree reserved n - n) (by omega)
  rw [Nat.add_sub_cancel' hle] at this
  rw [freeBelow_succ, if_neg hfree, this]

theorem nodup_freeBelow (n : Nat) : (scheme.freeBelow reserved n).Nodup :=
  (scheme.nodup_map_label List.nodup_range).filter _

theorem not_mem_reserved {n : Nat} {label : String} (h : label ∈ scheme.freeBelow reserved n) :
    label ∉ reserved := by
  simpa using (List.mem_filter.1 h).2

theorem freeBelow_prefix {m n : Nat} (h : m ≤ n) :
    scheme.freeBelow reserved m <+: scheme.freeBelow reserved n := by
  induction h with
  | refl => exact List.prefix_refl _
  | step _ ih =>
    rw [freeBelow_succ]
    exact ih.trans (List.prefix_append _ _)

/-- Of the first labels, no more are reserved than there are reserved names. -/
theorem le_length_freeBelow (n : Nat) :
    n ≤ (scheme.freeBelow reserved n).length + reserved.length := by
  let isReserved (i : Nat) : Bool := scheme.label i ∈ reserved
  have taken : ((List.range n).filter isReserved).length ≤ reserved.length := by
    refine scheme.length_le_of_forall_label_mem (List.nodup_range.filter _) ?_
    intro i hi
    simpa [isReserved] using (List.mem_filter.1 hi).2
  have split : (List.range n).length = ((List.range n).filter isReserved).length +
      ((List.range n).filter fun i => !isReserved i).length :=
    List.length_eq_length_filter_add _
  have free : (scheme.freeBelow reserved n).length =
      ((List.range n).filter fun i => !isReserved i).length := by
    simp [freeBelow, List.filter_map, Function.comp_def, isReserved]
  rw [List.length_range] at split
  omega

/-- The labels below any number are the first that are not reserved. -/
theorem freeBelow_eq_unreserved (n : Nat) : scheme.freeBelow reserved n =
    scheme.unreserved reserved (scheme.freeBelow reserved n).length := by
  have h := scheme.freeBelow_prefix reserved (scheme.le_length_freeBelow reserved n)
  exact List.prefix_iff_eq_take.1 h

theorem length_unreserved (count : Nat) : (scheme.unreserved reserved count).length = count := by
  have := scheme.le_length_freeBelow reserved (count + reserved.length)
  rw [unreserved, List.length_take]
  omega

theorem nodup_unreserved (count : Nat) : (scheme.unreserved reserved count).Nodup :=
  (scheme.nodup_freeBelow reserved _).sublist (List.take_sublist _ _)

theorem not_mem_reserved_of_mem_unreserved {count : Nat} {label : String}
    (h : label ∈ scheme.unreserved reserved count) : label ∉ reserved :=
  scheme.not_mem_reserved reserved (List.mem_of_mem_take h)

theorem exists_of_mem_unreserved {count : Nat} {label : String}
    (h : label ∈ scheme.unreserved reserved count) : ∃ n, scheme.label n = label := by
  obtain ⟨n, -, hn⟩ := List.mem_map.1 (List.mem_of_mem_filter (List.mem_of_mem_take h))
  exact ⟨n, hn⟩

end LabelScheme

end StoreQuery
