import StoreQuery.Proofs.Config.Obtainable
import StoreQuery.Proofs.Parameters.Families

/-!
# Labels in common

Two families of labels either have no label in common, or all labels of the one belong to the other:
where a word goes on from another with a numeral, so do all its labels. The checks of words allow
both.

* `LabelScheme.Overlap` : two schemes have a label in common;
* `LabelScheme.overlap_alphabetic_iff`, `LabelScheme.overlap_numbered_iff` : the words for which
  they have one;
* `Config.overlap_iff_of_checkWords` : **exactly which words that pass the checks share labels**,
  and the default words share none.
-/

namespace StoreQuery

namespace LabelScheme

/-- The schemes have a label in common. -/
def Overlap (s t : LabelScheme) : Prop := ∃ m n, s.label m = t.label n

theorem not_apart_iff {s t : LabelScheme} : ¬ Apart s t ↔ Overlap s t := by
  simp only [Apart, Overlap, not_forall, not_not]

/-- A word shares a label with the alphabetic ones if it is a letter, alone or with a numeral. -/
theorem overlap_alphabetic_iff {word : String} : Overlap .alphabetic (.numbered word) ↔
    ∃ c cs, word.toList = c :: cs ∧ c.isLower = true ∧ (cs = [] ∨ isNumeral cs = true) := by
  rw [← not_apart_iff, apart_alphabetic_numbered_iff, Bool.not_eq_false, looksAlphabetic_iff]

/-- Two words share a label if one is the other with a numeral at its end. -/
theorem overlap_numbered_iff {p q : String} (hpq : p ≠ q) :
    Overlap (.numbered p) (.numbered q) ↔
      (∃ cs, isNumeral cs = true ∧ q.toList = p.toList ++ cs) ∨
        ∃ cs, isNumeral cs = true ∧ p.toList = q.toList ++ cs := by
  rw [← not_apart_iff, apart_numbered_iff hpq, ← isContinued_iff, ← isContinued_iff,
    Classical.not_and_iff_not_or_not, Bool.not_eq_false, Bool.not_eq_false]

/-- A word that shares one label with the alphabetic ones shares all. -/
theorem within_of_overlap_alphabetic {word : String} (h : Overlap .alphabetic (.numbered word)) :
    Within (.numbered word) .alphabetic :=
  within_of_looksAlphabetic (looksAlphabetic_iff.2 (overlap_alphabetic_iff.1 h))

/-- Of two words that share a label, one shares all. -/
theorem within_of_overlap_numbered {p q : String} (hpq : p ≠ q)
    (h : Overlap (.numbered p) (.numbered q)) :
    Within (.numbered q) (.numbered p) ∨ Within (.numbered p) (.numbered q) :=
  ((overlap_numbered_iff hpq).1 h).imp
    (fun continued => within_of_isContinued (isContinued_iff.2 continued))
    (fun continued => within_of_isContinued (isContinued_iff.2 continued))

end LabelScheme

namespace Config

open LabelScheme

/-- **Which words share labels.** Two words pass the checks: they are different identifiers. Either
shares a label with the alphabetic ones exactly if it is a lower-case letter, alone or followed by a
numeral; they share a label with each other exactly if one is the other followed by a numeral. A
numeral has no leading zero. Where one label is shared, all labels of one of the families are. The
words that hold unless they are changed share none. -/
theorem overlap_iff_of_checkWords {p q : String} (accepted : checkWords p q = .ok ()) :
    (∀ word ∈ [p, q],
      (Overlap .alphabetic (.numbered word) ↔
        ∃ c cs, word.toList = c :: cs ∧ c.isLower = true ∧ (cs = [] ∨ isNumeral cs = true)) ∧
      (Overlap .alphabetic (.numbered word) → Within (.numbered word) .alphabetic)) ∧
    (Overlap (.numbered p) (.numbered q) ↔
      (∃ cs, isNumeral cs = true ∧ q.toList = p.toList ++ cs) ∨
        ∃ cs, isNumeral cs = true ∧ p.toList = q.toList ++ cs) ∧
    (Overlap (.numbered p) (.numbered q) →
      Within (.numbered q) (.numbered p) ∨ Within (.numbered p) (.numbered q)) ∧
    default.KeepsApart := by
  obtain ⟨-, -, differ⟩ := checkWords_eq_ok_iff.1 accepted
  refine ⟨?_, overlap_numbered_iff differ, within_of_overlap_numbered differ, keepsApart_default⟩
  intro word _
  exact ⟨overlap_alphabetic_iff, within_of_overlap_alphabetic⟩

/-- The word `b2` and, with a numeral at its end, `b21` share labels with each other and with the
alphabetic ones; with a zero in between, `b` and `b02` share none. -/
theorem overlap_b2_b21 : checkWords "b2" "b21" = .ok () ∧
    Overlap .alphabetic (.numbered "b2") ∧ Overlap (.numbered "b2") (.numbered "b21") ∧
    ¬ Overlap (.numbered "b") (.numbered "b02") := by
  have accepted : checkWords "b2" "b21" = .ok () := rfl
  obtain ⟨letters, words, -⟩ := overlap_iff_of_checkWords accepted
  obtain ⟨-, apart, -⟩ := overlap_iff_of_checkWords (p := "b") (q := "b02") rfl
  refine ⟨accepted, ?_, words.2 (.inl ⟨['1'], by decide, rfl⟩), ?_⟩
  · exact (letters _ List.mem_cons_self).1.2 ⟨'b', ['2'], rfl, rfl, .inr (by decide)⟩
  · rw [apart, ← isContinued_iff, ← isContinued_iff]
    decide

end Config

end StoreQuery
