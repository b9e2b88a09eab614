import Mathlib.Data.List.Induction

/-!
# Decimal numerals

A number is written in digits, and without a leading zero in one way only.

* `isNumeral` : digits, at least one of them, and no leading zero;
* `exists_toDigits_of_isNumeral` : every numeral is that of a positive number;
* `eq_zeros_append_toDigits` : digits are zeros and then the number they write.
-/

namespace StoreQuery

/-- The characters are a decimal numeral: digits, at least one of them, and no leading zero. -/
def isNumeral (cs : List Char) : Bool := cs.all Char.isDigit && cs.head?.any (· != '0')

theorem isNumeral_append {xs ys : List Char} (hxs : xs ≠ []) :
    isNumeral (xs ++ ys) = (isNumeral xs && ys.all Char.isDigit) := by
  obtain ⟨c, cs, rfl⟩ := List.exists_cons_of_ne_nil hxs
  simp only [isNumeral, List.cons_append, List.all_cons, List.all_append, List.head?_cons]
  ac_rfl

theorem exists_digitChar_of_isDigit {c : Char} (h : c.isDigit = true) :
    ∃ d < 10, Nat.digitChar d = c := by
  have bounds : 48 ≤ c.toNat ∧ c.toNat ≤ 57 := by
    simpa [Char.isDigit, UInt32.le_iff_toNat_le] using h
  refine ⟨c.toNat - 48, by omega, ?_⟩
  rw [← Char.toNat_inj, Nat.toNat_digitChar_of_lt_ten (by omega)]
  omega

theorem isNumeral_toDigits {n : Nat} (hn : 0 < n) : isNumeral (Nat.toDigits 10 n) = true := by
  induction n using Nat.strongRecOn with
  | ind n ih =>
    rw [Nat.toDigits_eq_if (by decide)]
    split
    · rename_i hlt
      have single : ∀ d < 10, 0 < d → isNumeral [Nat.digitChar d] = true := by decide
      exact single n hlt hn
    · have rest := ih (n / 10) (by omega) (by omega)
      have digit : (n % 10).digitChar.isDigit = true := by
        rw [Nat.isDigit_digitChar, decide_eq_true (Nat.mod_lt n (by decide))]
      rw [isNumeral_append Nat.toDigits_ne_nil, rest, Bool.true_and, List.all_cons, digit]
      rfl

/-- Every numeral is that of a positive number. -/
theorem exists_toDigits_of_isNumeral {cs : List Char} (h : isNumeral cs = true) :
    ∃ n, 0 < n ∧ Nat.toDigits 10 n = cs := by
  induction cs using List.reverseRecOn with
  | nil => cases h
  | append_singleton cs c ih =>
    by_cases hcs : cs = []
    · subst hcs
      have digit : c.isDigit = true ∧ c ≠ '0' := by simpa [isNumeral] using h
      obtain ⟨d, hd, rfl⟩ := exists_digitChar_of_isDigit digit.1
      refine ⟨d, Nat.pos_of_ne_zero ?_, Nat.toDigits_of_lt_base hd⟩
      rintro rfl
      exact digit.2 rfl
    · rw [isNumeral_append hcs, Bool.and_eq_true] at h
      obtain ⟨n, hn, rfl⟩ := ih h.1
      obtain ⟨d, hd, rfl⟩ := exists_digitChar_of_isDigit (by simpa using h.2)
      refine ⟨10 * n + d, by omega, ?_⟩
      rw [← Nat.toDigits_append_toDigits (by decide) hn hd, Nat.toDigits_of_lt_base hd]

/-- What is left of a numeral when its end is dropped is one, unless nothing is left. -/
theorem isNumeral_of_append_eq {cs ds : List Char} {n : Nat} (hn : 0 < n)
    (h : cs ++ ds = Nat.toDigits 10 n) (hcs : cs ≠ []) : isNumeral cs = true := by
  have := isNumeral_toDigits hn
  rw [← h, isNumeral_append hcs, Bool.and_eq_true] at this
  exact this.1

/-- A numeral goes on to be one when the digits of another are put at its end. -/
theorem isNumeral_append_toDigits {cs : List Char} (h : cs = [] ∨ isNumeral cs = true) {n : Nat}
    (hn : 0 < n) : isNumeral (cs ++ Nat.toDigits 10 n) = true := by
  rcases h with rfl | h
  · exact isNumeral_toDigits hn
  · have hcs : cs ≠ [] := by
      rintro rfl
      cases h
    have digits := isNumeral_toDigits hn
    rw [isNumeral, Bool.and_eq_true] at digits
    rw [isNumeral_append hcs, h, digits.1]
    rfl

/-- Digits are zeros and then the number that they write. -/
theorem eq_zeros_append_toDigits {digits : List Char} (present : digits ≠ [])
    (hdigits : ∀ c ∈ digits, c.isDigit = true) : ∃ zeros, digits =
      List.replicate zeros '0' ++ Nat.toDigits 10 (Nat.ofDigitChars 10 digits 0) := by
  induction digits with
  | nil => exact absurd rfl present
  | cons c cs ih =>
    by_cases hc : c = '0'
    · subst hc
      obtain rfl | hcs := eq_or_ne cs []
      · exact ⟨0, rfl⟩
      · obtain ⟨zeros, heq⟩ := ih hcs (List.forall_mem_cons.1 hdigits).2
        exact ⟨zeros + 1, congrArg (List.cons '0') heq⟩
    · have numeral : isNumeral (c :: cs) = true := by
        simpa [isNumeral, hc] using hdigits
      obtain ⟨n, -, heq⟩ := exists_toDigits_of_isNumeral numeral
      exact ⟨0, by rw [← heq, Nat.ofDigitChars_ten_toDigits]; rfl⟩

end StoreQuery
