import Mathlib.Data.List.Basic
import Mathlib.Data.List.TakeWhile

/-!
# Tokens by the longest match

A query text is read as a sequence of tokens: names, the operators of two characters and single
characters. The next token is always the longest one that the rest of the text begins with, whatever
a writer had in mind; so two texts that are written one after another may be read as others.

* `Lexer.tokens` are the tokens of a text and `Lexer.isToken_first` says that they are the longest;
* `Lexer.parts_append` : if the characters at a border do not fuse, no token spans it;
* `Lexer.not_parts_double` : where one character of a double operator is a text by itself and the
  other one follows it, a token spans one of the two borders of that text.
-/

namespace StoreQuery

namespace Lexer

/-- A character of a name: a letter, a digit, a sign that names may have, or any character that
neither operators nor punctuation use. -/
def isNameChar (c : Char) : Bool := c.isAlphanum || c == '_' || c == '$' || 127 < c.toNat

/-- The text is a name. -/
def IsName (s : String) : Prop := s ≠ "" ∧ s.toList.all isNameChar = true

instance : DecidablePred IsName := fun s =>
  inferInstanceAs (Decidable (s ≠ "" ∧ s.toList.all isNameChar = true))

/-- The operators of two characters. -/
def doubles : List (Char × Char) :=
  [('+', '+'), ('-', '-'), ('&', '&'), ('|', '|'), ('=', '='), ('!', '='), ('<', '='), ('>', '='),
    ('<', '<'), ('>', '>')]

/-- Two characters that belong to one token if the first does not end an earlier one. -/
def fuses (c d : Char) : Bool := isNameChar c && isNameChar d || doubles.contains (c, d)

/-- The number of characters that follow `c` in its token, if `c` starts one. -/
def extent (c : Char) (cs : List Char) : Nat :=
  if isNameChar c then (cs.takeWhile isNameChar).length
  else if cs.head?.any fun d => doubles.contains (c, d) then 1 else 0

/-- The tokens of a text. -/
def tokens : List Char → List (List Char)
  | [] => []
  | c :: cs => (c :: cs.take (extent c cs)) :: tokens (cs.drop (extent c cs))
termination_by cs => cs.length

@[simp] theorem tokens_nil : tokens [] = [] := by rw [tokens]

theorem tokens_cons (c : Char) (cs : List Char) :
    tokens (c :: cs) = (c :: cs.take (extent c cs)) :: tokens (cs.drop (extent c cs)) := by
  rw [tokens]

/-! ### The longest match -/

/-- A name, an operator of two characters, or a single character. -/
def IsToken (t : List Char) : Prop :=
  (t ≠ [] ∧ ∀ c ∈ t, isNameChar c = true) ∨ (∃ c d, t = [c, d] ∧ (c, d) ∈ doubles) ∨ ∃ c, t = [c]

theorem isNameChar_of_mem_doubles {c d : Char} (h : (c, d) ∈ doubles) :
    isNameChar c = false ∧ isNameChar d = false := by
  have all : ∀ p ∈ doubles, isNameChar p.1 = false ∧ isNameChar p.2 = false := by decide
  exact all (c, d) h

theorem extent_of_isNameChar {c : Char} (h : isNameChar c = true) (cs : List Char) :
    extent c cs = (cs.takeWhile isNameChar).length := if_pos h

theorem extent_of_mem_doubles {c d : Char} (h : (c, d) ∈ doubles) (cs : List Char) :
    extent c (d :: cs) = 1 := by
  simp [extent, (isNameChar_of_mem_doubles h).1, h]

theorem extent_le (c : Char) (cs : List Char) : extent c cs ≤ cs.length := by
  unfold extent
  split
  · exact (List.takeWhile_prefix _).length_le
  · split
    · cases cs <;> simp_all
    · exact Nat.zero_le _

/-- The first token of a text is one, and no longer one begins the text. -/
theorem isToken_first (c : Char) (cs : List Char) : IsToken (c :: cs.take (extent c cs)) ∧
    ∀ t, IsToken t → t <+: c :: cs → t.length ≤ extent c cs + 1 := by
  constructor
  · cases hc : isNameChar c with
    | true =>
      rw [extent_of_isNameChar hc, ← List.prefix_iff_eq_take.1 (List.takeWhile_prefix _)]
      refine .inl ⟨List.cons_ne_nil _ _, List.forall_mem_cons.2 ⟨hc, ?_⟩⟩
      exact fun d hd => List.mem_takeWhile_imp hd
    | false =>
      cases cs with
      | nil => exact .inr (.inr ⟨c, by simp⟩)
      | cons d ds =>
        by_cases hcd : (c, d) ∈ doubles
        · rw [extent_of_mem_doubles hcd]
          exact .inr (.inl ⟨c, d, rfl, hcd⟩)
        · exact .inr (.inr ⟨c, by simp [extent, hc, hcd]⟩)
  · rintro t (⟨-, names⟩ | ⟨x, d, rfl, hcd⟩ | ⟨x, rfl⟩) hprefix
    · obtain _ | ⟨x, t⟩ := t
      · exact Nat.zero_le _
      · obtain ⟨rfl, rest, rfl⟩ := List.cons_prefix_cons.1 hprefix
        rw [List.forall_mem_cons] at names
        rw [extent_of_isNameChar names.1, List.length_cons, Nat.add_le_add_iff_right]
        rw [List.takeWhile_append_of_pos names.2, List.length_append]
        exact Nat.le_add_right _ _
    · obtain _ | ⟨y, cs⟩ := cs
      · simp at hprefix
      · simp only [List.cons_prefix_cons] at hprefix
        obtain ⟨rfl, rfl, -⟩ := hprefix
        rw [extent_of_mem_doubles hcd]
        exact Nat.le_refl _
    · exact Nat.le_add_left _ _

/-- Tokens leave nothing out. -/
@[simp] theorem flatten_tokens (cs : List Char) : (tokens cs).flatten = cs := by
  fun_induction tokens cs with
  | case1 => rfl
  | case2 c cs ih => rw [List.flatten_cons, ih, List.cons_append, List.take_append_drop]

/-- What is left after some tokens is read as the tokens that are left. -/
theorem tokens_flatten {cs : List Char} {us vs : List (List Char)} (h : tokens cs = us ++ vs) :
    tokens vs.flatten = vs := by
  induction us generalizing cs with
  | nil => rw [← List.nil_append vs, ← h, flatten_tokens]
  | cons t us ih =>
    cases cs with
    | nil => simp at h
    | cons c cs =>
      rw [tokens_cons] at h
      exact ih (List.cons.inj h).2

/-! ### Borders -/

/-- No token of the text spans the end of `before`, with which it begins: some of the tokens make
up `before`, and the others make up what follows it. -/
def Parts (text before : List Char) : Prop :=
  ∃ us vs, tokens text = us ++ vs ∧ us.flatten = before

/-- What comes after a border where nothing fuses makes no token before it longer. -/
theorem extent_append {c : Char} {cs ds : List Char}
    (h : ∀ x ∈ (c :: cs).getLast?, ∀ y ∈ ds.head?, fuses x y = false) :
    extent c (cs ++ ds) = extent c cs := by
  cases hc : isNameChar c with
  | true =>
    rw [extent_of_isNameChar hc, extent_of_isNameChar hc, List.takeWhile_append]
    split
    · rename_i whole
      -- The name goes on up to the border and ends there.
      have names : ∀ x ∈ c :: cs, isNameChar x = true := by
        refine List.forall_mem_cons.2 ⟨hc, ?_⟩
        have := (List.takeWhile_prefix isNameChar).eq_of_length whole
        exact List.takeWhile_eq_self_iff.1 this
      obtain ⟨x, hx⟩ := Option.isSome_iff_exists.1 (List.getLast?_isSome.2 (List.cons_ne_nil c cs))
      have hname := names x (List.mem_of_getLast? hx)
      have ends : ds.takeWhile isNameChar = [] := by
        cases ds with
        | nil => rfl
        | cons y ds =>
          have := h x hx y rfl
          rw [fuses, hname, Bool.true_and, Bool.or_eq_false_iff] at this
          exact List.takeWhile_cons_of_neg (Bool.not_eq_true _ ▸ this.1)
      rw [ends, List.append_nil, whole]
    · rfl
  | false =>
    cases cs with
    | nil =>
      cases ds with
      | nil => rfl
      | cons y ds =>
        have := h c rfl y rfl
        rw [fuses, hc, Bool.false_and, Bool.false_or] at this
        simp_all [extent]
    | cons d cs => simp [extent, hc]

theorem tokens_append {cs ds : List Char}
    (h : ∀ x ∈ cs.getLast?, ∀ y ∈ ds.head?, fuses x y = false) :
    tokens (cs ++ ds) = tokens cs ++ tokens ds := by
  fun_induction tokens cs with
  | case1 => rfl
  | case2 c cs ih =>
    have same := extent_append h
    rw [List.cons_append, tokens_cons, same, List.take_append_of_le_length (extent_le c cs),
      List.drop_append_of_le_length (extent_le c cs), List.cons_append, ih]
    intro x hx
    refine h x ?_
    -- What is left after the first token ends as the whole does.
    rw [← List.take_append_drop (extent c cs) cs, ← List.cons_append,
      List.getLast?_append_of_ne_nil _ (List.ne_nil_of_mem (List.mem_of_getLast? hx))]
    exact hx

/-- No token spans the border between two texts if the characters at the border do not fuse. -/
theorem parts_append {cs ds : List Char}
    (h : ∀ x ∈ cs.getLast?, ∀ y ∈ ds.head?, fuses x y = false) : Parts (cs ++ ds) cs :=
  ⟨tokens cs, tokens ds, tokens_append h, flatten_tokens cs⟩

/-- Where a text is one character of a double operator and the other one follows it, a token spans
the border before or the border after that text. -/
theorem not_parts_double {c d : Char} (hcd : (c, d) ∈ doubles) {cs ds : List Char}
    (before : Parts (cs ++ c :: d :: ds) cs) : ¬ Parts (cs ++ c :: d :: ds) (cs ++ [c]) := by
  rintro ⟨us', vs', h', hus'⟩
  obtain ⟨us, vs, h, hus⟩ := before
  have left : vs.flatten = c :: d :: ds := by
    have whole := congrArg List.flatten h
    rwa [flatten_tokens, List.flatten_append, hus, List.append_cancel_left_eq, eq_comm] at whole
  have double : vs = [c, d] :: tokens ds := by
    rw [← tokens_flatten h, left, tokens_cons, extent_of_mem_doubles hcd]
    rfl
  rw [h, double, List.append_eq_append_iff] at h'
  -- The tokens up to the second border are those up to the first one, with `c` or with less.
  obtain ⟨more, hmore, hrest⟩ | ⟨more, hmore, -⟩ := h'
  · have rest : more.flatten = [c] := by simpa [hus', hus] using (congrArg List.flatten hmore).symm
    cases more with
    | nil => cases rest
    | cons t more =>
      obtain ⟨rfl, -⟩ := List.cons.inj hrest
      cases rest
  · have shorter := congrArg (List.length ∘ List.flatten) hmore
    simp only [Function.comp_apply, List.flatten_append, hus, hus', List.length_append,
      List.length_cons, List.length_nil] at shorter
    omega

end Lexer

end StoreQuery
