import StoreQuery.Config
import StoreQuery.Proofs.Parameters.Labels
import StoreQuery.Proofs.Text.Numeral

/-!
# Labels of different clauses

Conditions on objects, groups and columns make their labels by schemes of their own. Within a
scheme labels differ; between two schemes it depends on the words. Labels end in numerals, and so
may words: `p11` is the eleventh label of `p` and the first of `p1`.

* `LabelScheme.Apart` : two schemes have no label in common;
* `LabelScheme.Within` : one scheme has all labels of another, as a word has those of the word with
  a numeral at its end;
* `LabelScheme.apart_numbered_iff`, `LabelScheme.apart_alphabetic_numbered_iff` : **for which words
  they have none**;
* `Config.keepsApart_iff` : what to check of the words of settings, so that no label can be given
  in two clauses;
* `Config.keepsApart_default` : so it is unless the settings are changed.
-/

namespace StoreQuery

namespace LabelScheme

/-! ### The characters of labels -/

theorem toList_numbered (word : String) (n : Nat) :
    (label (.numbered word) n).toList = word.toList ++ Nat.toDigits 10 (n + 1) := by
  rw [label, String.toList_append]
  exact congrArg _ Nat.toList_repr

/-- A word with a numeral at its end is one of its labels. -/
theorem exists_label_numbered (word : String) {cs : List Char} (h : isNumeral cs = true) :
    ∃ n, (label (.numbered word) n).toList = word.toList ++ cs := by
  obtain ⟨n, hn, rfl⟩ := exists_toDigits_of_isNumeral h
  refine ⟨n - 1, ?_⟩
  rw [toList_numbered, Nat.sub_add_cancel hn]

theorem toList_alphabetic (n : Nat) : (label .alphabetic n).toList =
    Char.ofNat (97 + n % 26) :: if n < 26 then [] else Nat.toDigits 10 (n / 26) := by
  rw [label_alphabetic, String.toList_append, letter_toList, rounds]
  split
  · rfl
  · exact congrArg _ Nat.toList_repr

theorem isLower_letterChar {i : Nat} (h : i < 26) : (Char.ofNat (97 + i)).isLower = true := by
  revert i
  decide

theorem isDigit_letterChar {i : Nat} (h : i < 26) : (Char.ofNat (97 + i)).isDigit = false := by
  revert i
  decide

theorem exists_letterChar_of_isLower {c : Char} (h : c.isLower = true) :
    ∃ i < 26, Char.ofNat (97 + i) = c := by
  have bounds : 97 ≤ c.toNat ∧ c.toNat ≤ 122 := by
    have range : (decide (97 ≤ c.val) && decide (c.val ≤ 122)) = true := h
    simpa [UInt32.le_iff_toNat_le] using range
  refine ⟨c.toNat - 97, by omega, ?_⟩
  rw [Nat.add_sub_cancel' bounds.1, Char.ofNat_toNat]

/-- A letter with a numeral at its end is an alphabetic label. -/
theorem exists_label_alphabetic {c : Char} (hc : c.isLower = true) {cs : List Char}
    (h : isNumeral cs = true) : ∃ n, (label .alphabetic n).toList = c :: cs := by
  obtain ⟨i, hi, rfl⟩ := exists_letterChar_of_isLower hc
  obtain ⟨n, hn, rfl⟩ := exists_toDigits_of_isNumeral h
  refine ⟨26 * n + i, ?_⟩
  rw [toList_alphabetic, if_neg (by omega), Nat.mul_add_mod, Nat.mod_eq_of_lt hi,
    Nat.mul_add_div (by decide), Nat.div_eq_of_lt hi, Nat.add_zero]

/-! ### Labels in common -/

/-- The schemes have no label in common. -/
def Apart (s t : LabelScheme) : Prop := ∀ m n, s.label m ≠ t.label n

/-- Every label of the first scheme is one of the second. -/
def Within (s t : LabelScheme) : Prop := ∀ n, ∃ m, t.label m = s.label n

/-- The second word is the first with a numeral at its end. -/
def isContinued (word longer : String) : Bool :=
  word.toList.isPrefixOf longer.toList && isNumeral (longer.toList.drop word.toList.length)

theorem isContinued_iff {word longer : String} : isContinued word longer = true ↔
    ∃ cs, isNumeral cs = true ∧ longer.toList = word.toList ++ cs := by
  rw [isContinued, Bool.and_eq_true, List.isPrefixOf_iff_prefix]
  constructor
  · rintro ⟨⟨cs, hcs⟩, h⟩
    rw [← hcs, List.drop_left] at h
    exact ⟨cs, h, hcs.symm⟩
  · rintro ⟨cs, h, hcs⟩
    rw [hcs, List.drop_left]
    exact ⟨List.prefix_append _ _, h⟩

theorem exists_label_numbered_iff {word name : String} :
    (∃ n, label (.numbered word) n = name) ↔ isContinued word name = true := by
  rw [isContinued_iff]
  constructor
  · rintro ⟨n, rfl⟩
    exact ⟨_, isNumeral_toDigits n.succ_pos, toList_numbered word n⟩
  · rintro ⟨cs, hcs, hname⟩
    obtain ⟨n, hn⟩ := exists_label_numbered word hcs
    exact ⟨n, String.toList_inj.1 (hn.trans hname.symm)⟩

/-- Every label of a word with a numeral at its end is a label of the word, too. -/
theorem within_of_isContinued {word longer : String} (h : isContinued word longer = true) :
    Within (.numbered longer) (.numbered word) := by
  obtain ⟨cs, hcs, hlonger⟩ := isContinued_iff.1 h
  intro n
  obtain ⟨m, hm⟩ := exists_label_numbered word (isNumeral_append_toDigits (.inr hcs) n.succ_pos)
  refine ⟨m, String.toList_inj.1 ?_⟩
  rw [hm, toList_numbered, hlonger, List.append_assoc]

/-- Two words have no label in common exactly if neither is the other with a numeral at its end. -/
theorem apart_numbered_iff {word word' : String} (hword : word ≠ word') :
    Apart (.numbered word) (.numbered word') ↔
      isContinued word word' = false ∧ isContinued word' word = false := by
  constructor
  · intro apart
    refine ⟨Bool.eq_false_iff.2 ?_, Bool.eq_false_iff.2 ?_⟩
    · intro h
      obtain ⟨m, hm⟩ := within_of_isContinued h 0
      exact apart m 0 hm
    · intro h
      obtain ⟨m, hm⟩ := within_of_isContinued h 0
      exact apart 0 m hm.symm
  · have continued {u v : String} (huv : u ≠ v) {cs ds : List Char} {n : Nat}
        (hv : v.toList = u.toList ++ cs) (hcs : Nat.toDigits 10 (n + 1) = cs ++ ds) :
        isContinued u v = true := by
      refine isContinued_iff.2 ⟨cs, isNumeral_of_append_eq n.succ_pos hcs.symm ?_, hv⟩
      rintro rfl
      exact huv (String.toList_inj.1 (hv.trans (List.append_nil _))).symm
    rintro ⟨h, h'⟩ m n heq
    have chars := congrArg String.toList heq
    -- The shorter word begins the longer one, which goes on with part of a numeral.
    rw [toList_numbered, toList_numbered, List.append_eq_append_iff] at chars
    obtain ⟨cs, hv, hcs⟩ | ⟨cs, hv, hcs⟩ := chars
    · rw [continued hword hv hcs] at h
      cases h
    · rw [continued hword.symm hv hcs] at h'
      cases h'

/-- The word could begin an alphabetic label: it is a letter, alone or with a numeral. -/
def looksAlphabetic (word : String) : Bool :=
  match word.toList with
  | [] => false
  | c :: cs => c.isLower && (cs.isEmpty || isNumeral cs)

theorem looksAlphabetic_iff {word : String} : looksAlphabetic word = true ↔
    ∃ c cs, word.toList = c :: cs ∧ c.isLower = true ∧ (cs = [] ∨ isNumeral cs = true) := by
  rw [looksAlphabetic]
  cases word.toList with
  | nil => simp
  | cons c cs => simp

theorem exists_label_alphabetic_iff {name : String} :
    (∃ n, label .alphabetic n = name) ↔ looksAlphabetic name = true := by
  constructor
  · rintro ⟨n, rfl⟩
    have hletter : n % 26 < 26 := Nat.mod_lt n (by decide)
    rw [looksAlphabetic, toList_alphabetic]
    by_cases hn : n < 26
    · simp [hn, isLower_letterChar hletter]
    · have positive : 0 < n / 26 := by omega
      simp [hn, isLower_letterChar hletter, isNumeral_toDigits positive]
  · intro h
    obtain ⟨c, cs, hname, hc, rfl | hcs⟩ := looksAlphabetic_iff.1 h
    · obtain ⟨i, hi, rfl⟩ := exists_letterChar_of_isLower hc
      refine ⟨i, String.toList_inj.1 ?_⟩
      rw [toList_alphabetic, if_pos hi, Nat.mod_eq_of_lt hi, hname]
    · obtain ⟨n, hn⟩ := exists_label_alphabetic hc hcs
      exact ⟨n, String.toList_inj.1 (hn.trans hname.symm)⟩

/-- Every label of a word that could begin an alphabetic label is one. -/
theorem within_of_looksAlphabetic {word : String} (h : looksAlphabetic word = true) :
    Within (.numbered word) .alphabetic := by
  obtain ⟨c, cs, hword, hc, hcs⟩ := looksAlphabetic_iff.1 h
  intro n
  obtain ⟨m, hm⟩ := exists_label_alphabetic hc (isNumeral_append_toDigits hcs n.succ_pos)
  refine ⟨m, String.toList_inj.1 ?_⟩
  rw [hm, toList_numbered, hword, List.cons_append]

/-- A word has no label in common with the alphabetic ones exactly if it could begin none. -/
theorem apart_alphabetic_numbered_iff {word : String} :
    Apart .alphabetic (.numbered word) ↔ looksAlphabetic word = false := by
  constructor
  · intro apart
    refine Bool.eq_false_iff.2 ?_
    intro h
    obtain ⟨m, hm⟩ := within_of_looksAlphabetic h 0
    exact apart m 0 hm
  · intro h m n heq
    rw [looksAlphabetic] at h
    have chars := congrArg String.toList heq
    have hletter : m % 26 < 26 := Nat.mod_lt m (by decide)
    rw [toList_alphabetic, toList_numbered] at chars
    split at h
    · rename_i hword
      -- The labels of the empty word begin with a digit.
      rw [hword, List.nil_append] at chars
      have digit := Nat.isDigit_of_mem_toDigits (by decide) (by decide)
        (chars ▸ List.mem_cons_self : Char.ofNat (97 + m % 26) ∈ Nat.toDigits 10 (n + 1))
      rw [isDigit_letterChar hletter] at digit
      cases digit
    · rename_i c cs hword
      rw [hword, List.cons_append] at chars
      obtain ⟨rfl, tail⟩ := List.cons.inj chars
      rw [isLower_letterChar hletter, Bool.true_and, Bool.or_eq_false_iff] at h
      split at tail
      · exact absurd tail.symm (List.append_ne_nil_of_right_ne_nil _ Nat.toDigits_ne_nil)
      · have := isNumeral_of_append_eq (by omega) tail.symm (by simpa using h.1)
        rw [h.2] at this
        cases this

end LabelScheme

namespace Config

/-- No label can be given in two clauses. -/
structure KeepsApart (c : Config) : Prop where
  /-- Conditions on objects and groups have no label in common. -/
  filter_group : filterLabels.Apart c.groupLabels
  /-- Conditions on objects and columns have no label in common. -/
  filter_column : filterLabels.Apart c.columnLabels
  /-- Groups and columns have no label in common. -/
  group_column : c.groupLabels.Apart c.columnLabels

/-- The words make no label that two clauses could give. -/
def separatesLabels (c : Config) : Bool :=
  !LabelScheme.looksAlphabetic c.groupWord && !LabelScheme.looksAlphabetic c.columnWord &&
    !LabelScheme.isContinued c.groupWord c.columnWord &&
    !LabelScheme.isContinued c.columnWord c.groupWord

theorem keepsApart_iff {c : Config} (hwords : c.groupWord ≠ c.columnWord) :
    c.KeepsApart ↔ c.separatesLabels = true := by
  have columns := LabelScheme.apart_numbered_iff hwords
  simp only [separatesLabels, Bool.and_eq_true, Bool.not_eq_true']
  constructor
  · rintro ⟨group, column, differ⟩
    exact ⟨⟨⟨LabelScheme.apart_alphabetic_numbered_iff.1 group,
      LabelScheme.apart_alphabetic_numbered_iff.1 column⟩, (columns.1 differ).1⟩,
      (columns.1 differ).2⟩
  · rintro ⟨⟨⟨group, column⟩, continued⟩, continued'⟩
    exact ⟨LabelScheme.apart_alphabetic_numbered_iff.2 group,
      LabelScheme.apart_alphabetic_numbered_iff.2 column, columns.2 ⟨continued, continued'⟩⟩

theorem keepsApart_default : default.KeepsApart := (keepsApart_iff (by decide)).2 (by decide)

end Config

end StoreQuery
