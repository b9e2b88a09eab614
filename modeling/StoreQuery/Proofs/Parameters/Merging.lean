import StoreQuery.Assembly

/-!
# Merging bindings

Bindings of another clause are appended one by one, and each label is looked for among all labels
that are there by then, those that have just been appended included. So it does not matter whether a
label comes twice among the new ones or was there before: the first that repeats another ends the
merge, and what came before it stays.

* `Bindings.Apart` : no label of the new bindings repeats another;
* `Bindings.apart_or_repeats` : if one does, there is a first that does;
* `Bindings.mergeAll_eq_merge` : merging bindings in turn is merging them as one list;
* `Bindings.merge_exact` : **a merge appends everything if the labels are apart, and what comes
  before the first repeated label if they are not**.
-/

namespace StoreQuery

namespace Bindings

/-- The bindings with others at their end; the numbering stays. -/
def extend (b : Bindings) (entries : List Binding) : Bindings :=
  ⟨b.entries ++ entries, b.next⟩

@[simp] theorem extend_nil (b : Bindings) : b.extend [] = b := by
  simp [extend]

@[simp] theorem extend_extend (b : Bindings) (xs ys : List Binding) :
    (b.extend xs).extend ys = b.extend (xs ++ ys) := by
  simp [extend]

@[simp] theorem next_extend (b : Bindings) (entries : List Binding) :
    (b.extend entries).next = b.next := rfl

@[simp] theorem labels_extend (b : Bindings) (entries : List Binding) :
    (b.extend entries).labels = b.labels ++ entries.map (·.label) := by
  simp [extend, labels]

/-- The labels of the new bindings differ from each other and from those that are there. -/
structure Apart (b : Bindings) (entries : List Binding) : Prop where
  /-- No label comes twice among the new ones. -/
  nodup : (entries.map (·.label)).Nodup
  /-- No new label is there already. -/
  fresh : ∀ e ∈ entries, e.label ∉ b.labels

namespace Apart

theorem nil (b : Bindings) : b.Apart [] := ⟨List.nodup_nil, nofun⟩

/-- The first binding is new, and the others are apart from what is there once it is appended. -/
theorem cons_iff {b : Bindings} {e : Binding} {entries : List Binding} :
    b.Apart (e :: entries) ↔ e.label ∉ b.labels ∧ (b.extend [e]).Apart entries := by
  constructor
  · rintro ⟨nodup, fresh⟩
    rw [List.map_cons, List.nodup_cons] at nodup
    rw [List.forall_mem_cons] at fresh
    refine ⟨fresh.1, nodup.2, ?_⟩
    intro d hd
    have differs : d.label ≠ e.label := fun heq => nodup.1 (heq ▸ List.mem_map_of_mem hd)
    simpa using ⟨fresh.2 d hd, differs⟩
  · rintro ⟨new, nodup, fresh⟩
    simp only [labels_extend, List.map_cons, List.map_nil, List.mem_append, List.mem_singleton,
      not_or] at fresh
    refine ⟨?_, List.forall_mem_cons.2 ⟨new, fun d hd => (fresh d hd).1⟩⟩
    rw [List.map_cons, List.nodup_cons, List.mem_map]
    exact ⟨fun ⟨d, hd, heq⟩ => (fresh d hd).2 heq, nodup⟩

/-- Labels that differ go on to differ. -/
theorem nodup_extend {b : Bindings} {entries : List Binding} (h : b.Apart entries)
    (hb : b.labels.Nodup) : (b.extend entries).labels.Nodup := by
  rw [labels_extend]
  refine List.nodup_append.2 ⟨hb, h.nodup, ?_⟩
  rintro l hl l' hl' rfl
  obtain ⟨e, he, rfl⟩ := List.mem_map.1 hl'
  exact h.fresh e he hl

end Apart

/-- If labels are not apart, there is a first that repeats another. -/
theorem apart_or_repeats (b : Bindings) (entries : List Binding) :
    b.Apart entries ∨ ∃ before e after, entries = before ++ e :: after ∧ b.Apart before ∧
      e.label ∈ (b.extend before).labels := by
  induction entries generalizing b with
  | nil => exact .inl (.nil b)
  | cons d entries ih =>
    by_cases hd : d.label ∈ b.labels
    · exact .inr ⟨[], d, entries, rfl, .nil b, by simpa using hd⟩
    · obtain apart | ⟨before, e, after, rfl, apart, repeated⟩ := ih (b.extend [d])
      · exact .inl (Apart.cons_iff.2 ⟨hd, apart⟩)
      · exact .inr ⟨d :: before, e, after, rfl, Apart.cons_iff.2 ⟨hd, apart⟩,
          by simpa using repeated⟩

/-! ### One merge -/

theorem merge_cons_of_mem {b : Bindings} {e : Binding} (h : e.label ∈ b.labels)
    (rest : List Binding) : b.merge (e :: rest) = (b, some e.label) := by
  have taken : (b.entries.any fun d => d.label == e.label) = true := by
    simpa [labels] using h
  rw [merge, if_pos taken]

theorem merge_cons_of_not_mem {b : Bindings} {e : Binding} (h : e.label ∉ b.labels)
    (rest : List Binding) : b.merge (e :: rest) = (b.extend [e]).merge rest := by
  have free : ¬ (b.entries.any fun d => d.label == e.label) = true := by
    simpa [labels] using h
  rw [merge, if_neg free]
  rfl

/-- Bindings that are apart are appended before the merge goes on. -/
theorem merge_append_of_apart {b : Bindings} {before : List Binding} (h : b.Apart before)
    (rest : List Binding) : b.merge (before ++ rest) = (b.extend before).merge rest := by
  induction before generalizing b with
  | nil => simp
  | cons e before ih =>
    obtain ⟨new, apart⟩ := Apart.cons_iff.1 h
    rw [List.cons_append, merge_cons_of_not_mem new, ih apart, extend_extend]
    rfl

theorem merge_of_apart {b : Bindings} {entries : List Binding} (h : b.Apart entries) :
    b.merge entries = (b.extend entries, none) := by
  have := merge_append_of_apart h []
  rwa [List.append_nil] at this

theorem merge_of_repeated {b : Bindings} {before : List Binding} {e : Binding}
    (h : b.Apart before) (repeated : e.label ∈ (b.extend before).labels) (after : List Binding) :
    b.merge (before ++ e :: after) = (b.extend before, some e.label) := by
  rw [merge_append_of_apart h, merge_cons_of_mem repeated]

/-- A merge succeeds exactly if the labels are apart. -/
theorem merge_eq_none_iff {b merged : Bindings} {entries : List Binding} :
    b.merge entries = (merged, none) ↔ b.Apart entries ∧ merged = b.extend entries := by
  constructor
  · intro h
    obtain apart | ⟨before, e, after, rfl, apart, repeated⟩ := b.apart_or_repeats entries
    · rw [merge_of_apart apart, Prod.mk.injEq] at h
      exact ⟨apart, h.1.symm⟩
    · rw [merge_of_repeated apart repeated] at h
      cases h
  · rintro ⟨apart, rfl⟩
    exact merge_of_apart apart

/-- A merge fails exactly at the first label that repeats another. -/
theorem merge_eq_some_iff {b merged : Bindings} {entries : List Binding} {label : String} :
    b.merge entries = (merged, some label) ↔ ∃ before e after,
      entries = before ++ e :: after ∧ b.Apart before ∧
      (e.label ∈ b.labels ∨ e.label ∈ before.map (·.label)) ∧
      label = e.label ∧ merged = b.extend before := by
  constructor
  · intro h
    obtain apart | ⟨before, e, after, rfl, apart, repeated⟩ := b.apart_or_repeats entries
    · rw [merge_of_apart apart] at h
      cases h
    · rw [merge_of_repeated apart repeated] at h
      cases h
      rw [labels_extend, List.mem_append] at repeated
      exact ⟨before, e, after, rfl, apart, repeated, rfl, rfl⟩
  · rintro ⟨before, e, after, rfl, apart, repeated, rfl, rfl⟩
    rw [← List.mem_append, ← labels_extend] at repeated
    exact merge_of_repeated apart repeated after

/-- Whether it succeeds or not, a merge appends bindings that are apart. -/
theorem exists_extend_of_merge (b : Bindings) (entries : List Binding) :
    ∃ gained, b.Apart gained ∧ (b.merge entries).1 = b.extend gained := by
  obtain apart | ⟨before, e, after, rfl, apart, repeated⟩ := b.apart_or_repeats entries
  · exact ⟨entries, apart, by rw [merge_of_apart apart]⟩
  · exact ⟨before, apart, by rw [merge_of_repeated apart repeated]⟩

/-! ### Merging in turn -/

/-- Merge bindings one after the other, until a merge fails. -/
def mergeAll (b : Bindings) : List Bindings → Bindings × Option String
  | [] => (b, none)
  | other :: others =>
    match b.merge other.entries with
    | (merged, none) => merged.mergeAll others
    | (merged, some label) => (merged, some label)

/-- A merge in two parts goes on with the second if the first succeeds. -/
theorem merge_append (b : Bindings) (xs ys : List Binding) :
    b.merge (xs ++ ys) =
      match b.merge xs with
      | (merged, none) => merged.merge ys
      | (merged, some label) => (merged, some label) := by
  obtain apart | ⟨before, e, after, rfl, apart, repeated⟩ := b.apart_or_repeats xs
  · rw [merge_of_apart apart, merge_append_of_apart apart]
  · rw [merge_of_repeated apart repeated, List.append_assoc, List.cons_append,
      merge_of_repeated apart repeated]

/-- It does not matter how the bindings are divided. -/
theorem mergeAll_eq_merge (b : Bindings) (others : List Bindings) :
    b.mergeAll others = b.merge (others.flatMap (·.entries)) := by
  induction others generalizing b with
  | nil => rfl
  | cons other others ih =>
    rw [mergeAll, List.flatMap_cons, merge_append]
    split
    · exact ih _
    · rfl

end Bindings

namespace Frame

theorem mergeLabels_eq_ok_iff {parameters merged : Bindings} {d : Draft} :
    mergeLabels parameters d = .ok merged ↔
      parameters.Apart d.bindings.entries ∧ merged = parameters.extend d.bindings.entries := by
  rw [← Bindings.merge_eq_none_iff, mergeLabels]
  rcases parameters.merge d.bindings.entries with ⟨_, _ | _⟩ <;> simp

theorem mergeLabels_eq_error_iff {parameters : Bindings} {d : Draft} {cause : QueryError} :
    mergeLabels parameters d = .error cause ↔
      ∃ merged label, parameters.merge d.bindings.entries = (merged, some label) ∧
        cause = .duplicateLabel label := by
  rw [mergeLabels]
  rcases parameters.merge d.bindings.entries with ⟨_, _ | _⟩ <;> simp [and_assoc, eq_comm]

end Frame

/-- **A merge succeeds exactly if the labels of the others differ from each other and from those
that are there**; then all are appended, and the numbering stays. Otherwise the error names the
first label that was there or that came earlier among the others, and exactly what comes before it
is appended. Merging several in turn succeeds on the same condition for all of them together. -/
theorem Bindings.merge_exact (b : Bindings) :
    (∀ (other merged : Bindings), b.merge other.entries = (merged, none) ↔
      b.Apart other.entries ∧ merged = b.extend other.entries) ∧
    (∀ (other merged : Bindings) (label : String),
      b.merge other.entries = (merged, some label) ↔
        ∃ before e after, other.entries = before ++ e :: after ∧ b.Apart before ∧
          (e.label ∈ b.labels ∨ e.label ∈ before.map (·.label)) ∧
          label = e.label ∧ merged = b.extend before) ∧
    (∀ (d : Draft) (merged : Bindings), Frame.mergeLabels b d = .ok merged ↔
      b.Apart d.bindings.entries ∧ merged = b.extend d.bindings.entries) ∧
    (∀ (d : Draft) (cause : QueryError), Frame.mergeLabels b d = .error cause ↔
      ∃ merged label, b.merge d.bindings.entries = (merged, some label) ∧
        cause = .duplicateLabel label) ∧
    ∀ (others : List Bindings) (merged : Bindings), b.mergeAll others = (merged, none) ↔
      b.Apart (others.flatMap (·.entries)) ∧ merged = b.extend (others.flatMap (·.entries)) := by
  refine ⟨fun _ _ => merge_eq_none_iff, fun _ _ _ => merge_eq_some_iff,
    fun _ _ => Frame.mergeLabels_eq_ok_iff, fun _ _ => Frame.mergeLabels_eq_error_iff, ?_⟩
  intro others merged
  rw [mergeAll_eq_merge, merge_eq_none_iff]

-- The label that is repeated comes from the same bindings.
example : Bindings.merge ⟨[⟨"a", .int 1⟩], 1⟩ [⟨"b", .int 2⟩, ⟨"b", .int 3⟩, ⟨"c", .int 4⟩] =
    (⟨[⟨"a", .int 1⟩, ⟨"b", .int 2⟩], 1⟩, some "b") := by
  rfl

end StoreQuery
