import StoreQuery.Proofs.Parameters.Alignment

/-!
# How bindings come about

Labels are numbered by a counter that belongs to the bindings, whatever scheme makes the labels, and
that merging does not move. A scheme therefore never repeats a label of its own, but it may repeat
one that was merged in or that another scheme gave.

* `Bindings.History` : the calls by which bindings are made, of the merged ones, too;
* `Bindings.History.mem_foreign_or_numbered` : what the labels are, seen from one scheme;
* `Bindings.History.labels_nodup_iff_fresh` : **labels differ exactly if no scheme gives a label
  that is foreign to it**, and then every label gives its value back;
* `Bindings.History.label_given_after_merge` : bindings in which two values have one label.
-/

namespace StoreQuery

namespace Bindings

/-- A label that is there once gives its value back. -/
theorem get?_of_mem {b : Bindings} (h : b.labels.Nodup) {e : Binding} (he : e ∈ b.entries) :
    b.get? e.label = some e.value := by
  obtain ⟨entries, next⟩ := b
  simp only [labels, get?, Option.map_eq_some_iff] at h he ⊢
  refine ⟨e, ?_, rfl⟩
  induction entries with
  | nil => cases he
  | cons d entries ih =>
    rw [List.map_cons, List.nodup_cons] at h
    obtain rfl | he := List.mem_cons.1 he
    · simp
    · have differs : (d.label == e.label) = false := by
        rw [beq_eq_false_iff_ne]
        intro heq
        exact h.1 (heq ▸ List.mem_map_of_mem he)
      rw [List.find?_cons, differs]
      exact ih h.2 he

/-- The calls by which bindings are made. -/
inductive History where
  /-- There are no bindings yet. -/
  | empty
  /-- The label of a value is asked for. -/
  | label (before : History) (v : Value) (scheme : LabelScheme) (reserved : List String)
  /-- Other bindings are merged in, all or up to a label that is there already. -/
  | merge (before other : History)

namespace History

/-- The bindings that the calls make. -/
def bindings : History → Bindings
  | .empty => .empty
  | .label h v scheme reserved => (h.bindings.labelFor v scheme reserved).2
  | .merge h other => (h.bindings.merge other.bindings.entries).1

/-- The labels that are foreign to a scheme: they were merged in, or another scheme gave them. -/
def foreign (scheme : LabelScheme) : History → List String
  | .empty => []
  | .label h v giver reserved =>
    if giver = scheme ∨ h.bindings.labelOf? v ≠ none then h.foreign scheme
    else h.foreign scheme ++ [(h.bindings.assign v giver reserved).1]
  | .merge h other =>
    h.foreign scheme ++ (h.merge other).bindings.labels.drop h.bindings.labels.length

/-- Whenever a scheme gave a label, that label was not foreign to it. -/
def Fresh : History → Prop
  | .empty => True
  | .label h v scheme reserved => h.Fresh ∧
      (h.bindings.labelOf? v = none → (h.bindings.assign v scheme reserved).1 ∉ h.foreign scheme)
  | .merge h _ => h.Fresh

instance decidableFresh : (h : History) → Decidable h.Fresh
  | .empty => .isTrue trivial
  | .label h v scheme reserved =>
    have := decidableFresh h
    inferInstanceAs (Decidable (h.Fresh ∧ (h.bindings.labelOf? v = none →
      (h.bindings.assign v scheme reserved).1 ∉ h.foreign scheme)))
  | .merge h _ => decidableFresh h

/-! ### What a call adds -/

theorem bindings_label_of_some {h : History} {v : Value} {label : String}
    (known : h.bindings.labelOf? v = some label) (scheme : LabelScheme) (reserved : List String) :
    (h.label v scheme reserved).bindings = h.bindings := by
  simp [bindings, labelFor, known]

theorem bindings_label_of_none {h : History} {v : Value} (new : h.bindings.labelOf? v = none)
    (scheme : LabelScheme) (reserved : List String) :
    (h.label v scheme reserved).bindings = (h.bindings.assign v scheme reserved).2 := by
  simp [bindings, labelFor, new]

/-- Merging adds bindings at the end, and their labels are apart. -/
theorem exists_extend (h other : History) :
    ∃ gained, h.bindings.Apart gained ∧ (h.merge other).bindings = h.bindings.extend gained :=
  h.bindings.exists_extend_of_merge other.bindings.entries

/-- Merging adds labels at the end and leaves the counter. -/
theorem bindings_merge (h other : History) : (h.merge other).bindings.labels = h.bindings.labels ++
      (h.merge other).bindings.labels.drop h.bindings.labels.length ∧
    (h.merge other).bindings.next = h.bindings.next := by
  obtain ⟨gained, -, merged⟩ := h.exists_extend other
  rw [merged]
  simp

/-! ### Labels, seen from one scheme -/

theorem foreign_subset (scheme : LabelScheme) (h : History) :
    h.foreign scheme ⊆ h.bindings.labels := by
  induction h with
  | empty => exact List.nil_subset _
  | label h v giver reserved ih =>
    cases known : h.bindings.labelOf? v with
    | some label => simpa [foreign, known, bindings_label_of_some known] using ih
    | none =>
      rw [bindings_label_of_none known, labels_assign]
      by_cases hgiver : giver = scheme
      · rw [foreign, if_pos (.inl hgiver)]
        exact List.Subset.trans ih (List.subset_append_left _ _)
      · rw [foreign, if_neg (by simp [hgiver, known])]
        exact List.append_subset.2
          ⟨List.Subset.trans ih (List.subset_append_left _ _), List.subset_append_right _ _⟩
  | merge h other ih _ =>
    rw [foreign, (bindings_merge h other).1, List.drop_left]
    exact List.append_subset.2
      ⟨List.Subset.trans ih (List.subset_append_left _ _), List.subset_append_right _ _⟩

/-- A label is foreign to a scheme, or it is one of its labels with a number that was passed. -/
theorem mem_foreign_or_numbered (scheme : LabelScheme) {h : History} {label : String}
    (hlabel : label ∈ h.bindings.labels) :
    label ∈ h.foreign scheme ∨ ∃ n < h.bindings.next, scheme.label n = label := by
  induction h with
  | empty => cases hlabel
  | label h v giver reserved ih =>
    cases known : h.bindings.labelOf? v with
    | some _ =>
      rw [bindings_label_of_some known] at hlabel ⊢
      rw [foreign, if_pos (.inr (by simp [known]))]
      exact ih hlabel
    | none =>
      rw [bindings_label_of_none known] at hlabel ⊢
      rw [labels_assign, List.mem_append, List.mem_singleton] at hlabel
      have passed := (giver.nextFree_spec reserved h.bindings.next).1
      have later : h.bindings.next < (h.bindings.assign v giver reserved).2.next :=
        Nat.lt_succ_of_le passed
      -- What is foreign stays so, and numbers that were passed stay passed.
      rcases hlabel with hlabel | rfl
      · rcases ih hlabel with hforeign | ⟨n, hn, hlabel⟩
        · left
          rw [foreign]
          split
          · exact hforeign
          · exact List.mem_append_left _ hforeign
        · exact .inr ⟨n, Nat.lt_trans hn later, hlabel⟩
      · by_cases hgiver : giver = scheme
        · subst hgiver
          exact .inr ⟨_, Nat.lt_succ_self _, rfl⟩
        · left
          rw [foreign, if_neg (by simp [hgiver, known])]
          exact List.mem_append_right _ (List.mem_singleton_self _)
  | merge h other ih _ =>
    obtain ⟨hlabels, hnext⟩ := bindings_merge h other
    rw [hlabels, List.mem_append] at hlabel
    rw [foreign, hnext, List.mem_append]
    rcases hlabel with hlabel | hlabel
    · exact (ih hlabel).imp_left .inl
    · exact .inl (.inr hlabel)

/-- A new label repeats no label but a foreign one: the scheme's own have smaller numbers. -/
theorem assign_mem_labels_iff (h : History) (v : Value) (scheme : LabelScheme)
    (reserved : List String) : (h.bindings.assign v scheme reserved).1 ∈ h.bindings.labels ↔
      (h.bindings.assign v scheme reserved).1 ∈ h.foreign scheme := by
  constructor
  · intro hmem
    rcases mem_foreign_or_numbered scheme hmem with hforeign | ⟨n, hn, heq⟩
    · exact hforeign
    · have passed := (scheme.nextFree_spec reserved h.bindings.next).1
      have := scheme.label_injective heq
      omega
  · intro hforeign
    exact foreign_subset scheme h hforeign

theorem nodup_labels_iff (h : History) : h.bindings.labels.Nodup ↔ h.Fresh := by
  induction h with
  | empty => exact iff_of_true List.nodup_nil trivial
  | label h v scheme reserved ih =>
    rw [Fresh, ← ih]
    cases known : h.bindings.labelOf? v with
    | some _ => simp [bindings_label_of_some known]
    | none =>
      rw [bindings_label_of_none known, labels_assign, ← assign_mem_labels_iff,
        List.nodup_append_comm, List.singleton_append, List.nodup_cons, and_comm]
      simp
  | merge h other ih _ =>
    rw [Fresh, ← ih]
    constructor
    · intro hnodup
      rw [(bindings_merge h other).1] at hnodup
      exact hnodup.of_append_left
    · intro hnodup
      obtain ⟨gained, apart, merged⟩ := h.exists_extend other
      rw [merged]
      exact apart.nodup_extend hnodup

/-- **Labels differ exactly if no scheme gave a label that was foreign to it.** Then every label
gives back the value that it was given to, and the label of a value gives back that value or the one
that equals it and had the label first. -/
theorem labels_nodup_iff_fresh (h : History) :
    (h.bindings.labels.Nodup ↔ h.Fresh) ∧
    (h.Fresh → ∀ e ∈ h.bindings.entries, h.bindings.get? e.label = some e.value) ∧
    ∀ v scheme reserved, (h.label v scheme reserved).Fresh →
      ∃ w, (h.label v scheme reserved).bindings.get? (h.bindings.labelFor v scheme reserved).1 =
        some w ∧ (w = v ∨ (w == v) = true) := by
  refine ⟨nodup_labels_iff h, ?_, ?_⟩
  · intro fresh e he
    exact get?_of_mem ((nodup_labels_iff h).2 fresh) he
  · intro v scheme reserved fresh
    obtain ⟨-, w, hw, hequal⟩ := h.bindings.labelFor_spec v scheme reserved
    exact ⟨w, get?_of_mem ((nodup_labels_iff _).2 fresh) hw, hequal⟩

/-- Two schemes that are apart give labels before and after others are merged in. -/
def mixed : History :=
  .label (.merge (.label (.label .empty (.int 1) .alphabetic []) (.int 2) (.numbered "varg") [])
    (.label .empty (.int 1) (.numbered "varp") [])) (.int 3) .alphabetic ["c"]

theorem labels_nodup_mixed :
    mixed.Fresh ∧ mixed.bindings.labels = ["a", "varg2", "varp1", "d"] ∧
      mixed.bindings.labels.Nodup ∧
      ∀ e ∈ mixed.bindings.entries, mixed.bindings.get? e.label = some e.value := by
  have fresh : mixed.Fresh := by decide +kernel
  obtain ⟨nodup, values, -⟩ := labels_nodup_iff_fresh mixed
  exact ⟨fresh, by decide +kernel, nodup.2 fresh, values fresh⟩

/-! ### Labels that are given twice -/

/-- A value has got its label elsewhere, and then another is labelled by the same scheme. -/
def mergedFirst : History := .merge .empty (.label .empty (.int 1) .alphabetic [])

/-- The counter knows nothing of the bindings that were merged in: the label `a` is given again, and
it gives back the value that came with it first. -/
theorem label_given_after_merge :
    (mergedFirst.bindings.labelFor (.int 2) .alphabetic []).1 = "a" ∧
      ¬ (mergedFirst.label (.int 2) .alphabetic []).bindings.labels.Nodup ∧
      (mergedFirst.label (.int 2) .alphabetic []).bindings.get? "a" = some (.int 1) := by
  refine ⟨by decide +kernel, by decide +kernel, ?_⟩
  have given : (Bindings.empty.assign (.int 1) .alphabetic []).1 = "a" := by decide +kernel
  -- The second label is searched from the start, too.
  have entries : (mergedFirst.label (.int 2) .alphabetic []).bindings.entries =
      [⟨(Bindings.empty.assign (.int 1) .alphabetic []).1, .int 1⟩,
        ⟨(Bindings.empty.assign (.int 2) .alphabetic []).1, .int 2⟩] := rfl
  rw [← given, get?, entries]
  simp

/-- No merging is needed where two schemes share a label: `a1` has the number 0 in one of them and
26 in the other. -/
example : ¬ History.Fresh (.label (.label .empty (.int 1) (.numbered "a") []) (.int 2) .alphabetic
    ((List.range 25).map fun n => LabelScheme.letter (n + 1))) := by
  decide +kernel

end History

end Bindings

end StoreQuery
