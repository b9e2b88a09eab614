import Mathlib.Data.List.Chain
import StoreQuery.Proofs.Text.Numeral
import StoreQuery.Template

/-!
# The source form of templates

A source form is text with placeholders, in which an opening brace begins a placeholder and nothing
else. What reads it keeps the text and the digits so far in buffers; here the form is described
without them.

* `Template.SourceForm` : text and complete placeholders;
* `Template.BadPlaceholder` : what follows an opening brace is no placeholder, and why;
* `Template.Canonical` : pieces as they are read: texts are not empty, do not meet and hold no
  opening brace;
* `Template.UpToZeros` : texts that differ only in zeros before the numbers in placeholders;
* `Template.parse_exact` : **reading accepts exactly the source forms, loses nothing but zeros, and
  refuses any other text for its first bad placeholder.**
-/

namespace StoreQuery

namespace Template

/-! ### The form -/

/-- The digits write an index: there is a digit at least, and the number is below the bound. -/
def IsIndex (digits : List Char) : Prop :=
  digits ≠ [] ∧ (∀ c ∈ digits, c.isDigit = true) ∧ Nat.ofDigitChars 10 digits 0 < indexBound

/-- What follows an opening brace completes a placeholder. -/
def CompletesPlaceholder (after : List Char) : Prop :=
  ∃ digits rest, after = digits ++ '}' :: rest ∧ IsIndex digits

/-- Text and complete placeholders. A closing brace outside a placeholder is text. -/
inductive SourceForm : List Char → Prop
  | nil : SourceForm []
  | text {c : Char} {cs : List Char} (hc : c ≠ '{') (rest : SourceForm cs) : SourceForm (c :: cs)
  | placeholder {digits cs : List Char} (index : IsIndex digits) (rest : SourceForm cs) :
      SourceForm ('{' :: (digits ++ '}' :: cs))

/-- What follows an opening brace completes no placeholder, for the reason given. -/
inductive BadPlaceholder : List Char → TemplateError → Prop
  | unexpected {digits cs : List Char} {c : Char} (hdigits : ∀ d ∈ digits, d.isDigit = true)
      (hc : c.isDigit = false) (hopen : c ≠ '}') :
      BadPlaceholder (digits ++ c :: cs) (.unexpected c)
  | unterminated {digits : List Char} (hdigits : ∀ d ∈ digits, d.isDigit = true) :
      BadPlaceholder digits .unterminated
  | noIndex {digits cs : List Char} (hdigits : ∀ d ∈ digits, d.isDigit = true)
      (missing : digits = [] ∨ indexBound ≤ Nat.ofDigitChars 10 digits 0) :
      BadPlaceholder (digits ++ '}' :: cs) .noIndex

/-- The texts are the same but for zeros before the numbers in placeholders of the first. -/
inductive UpToZeros : List Char → List Char → Prop
  | nil : UpToZeros [] []
  | text {c : Char} {cs ds : List Char} (hc : c ≠ '{') (rest : UpToZeros cs ds) :
      UpToZeros (c :: cs) (c :: ds)
  | placeholder {digits cs ds : List Char} (zeros : Nat) (present : digits ≠ [])
      (hdigits : ∀ d ∈ digits, d.isDigit = true) (rest : UpToZeros cs ds) :
      UpToZeros ('{' :: (List.replicate zeros '0' ++ digits ++ '}' :: cs))
        ('{' :: (digits ++ '}' :: ds))

/-- The piece is text. -/
def isText : Segment → Bool
  | .text _ => true
  | .operand _ => false

/-- The pieces are as a source form is read. -/
structure Canonical (segments : List Segment) : Prop where
  /-- No text is empty. -/
  text_ne_empty : ∀ s, .text s ∈ segments → s ≠ ""
  /-- No text holds an opening brace. -/
  brace_not_mem : ∀ s, .text s ∈ segments → '{' ∉ s.toList
  /-- An index is below the bound. -/
  index_lt : ∀ n, .operand n ∈ segments → n < indexBound
  /-- Two texts do not meet. -/
  apart : segments.IsChain fun a b => isText a = false ∨ isText b = false

namespace Canonical

variable {segments : List Segment}

theorem nil : Canonical [] := ⟨nofun, nofun, nofun, .nil⟩

theorem operand {n : Nat} (hn : n < indexBound) (rest : Canonical segments) :
    Canonical (.operand n :: segments) where
  text_ne_empty s hs := rest.text_ne_empty s (by simpa using hs)
  brace_not_mem s hs := rest.brace_not_mem s (by simpa using hs)
  index_lt m hm := by
    obtain rfl | hm : m = n ∨ .operand m ∈ segments := by simpa using hm
    · exact hn
    · exact rest.index_lt m hm
  apart := List.isChain_cons.2 ⟨fun _ _ => .inl rfl, rest.apart⟩

theorem text {s : String} (hs : s ≠ "") (brace : '{' ∉ s.toList)
    (head : ∀ next ∈ segments.head?, isText next = false) (rest : Canonical segments) :
    Canonical (.text s :: segments) where
  text_ne_empty r hr := by
    obtain rfl | hr : r = s ∨ .text r ∈ segments := by simpa using hr
    · exact hs
    · exact rest.text_ne_empty r hr
  brace_not_mem r hr := by
    obtain rfl | hr : r = s ∨ .text r ∈ segments := by simpa using hr
    · exact brace
    · exact rest.brace_not_mem r hr
  index_lt n hn := rest.index_lt n (by simpa using hn)
  apart := List.isChain_cons.2 ⟨fun next hnext => .inr (head next hnext), rest.apart⟩

theorem tail {segment : Segment} (h : Canonical (segment :: segments)) : Canonical segments where
  text_ne_empty s hs := h.text_ne_empty s (List.mem_cons_of_mem _ hs)
  brace_not_mem s hs := h.brace_not_mem s (List.mem_cons_of_mem _ hs)
  index_lt n hn := h.index_lt n (List.mem_cons_of_mem _ hn)
  apart := h.apart.tail

/-- What follows a text is no text. -/
theorem head {s : String} (h : Canonical (.text s :: segments)) :
    ∀ next ∈ segments.head?, isText next = false := by
  intro next hnext
  exact ((List.isChain_cons.1 h.apart).1 next hnext).resolve_left nofun

end Canonical

/-! ### Numbers -/

theorem index?_eq (digits : List Char) : index? digits =
    if digits ≠ [] ∧ Nat.ofDigitChars 10 digits 0 < indexBound then
      some (Nat.ofDigitChars 10 digits 0) else none := by
  have number : digits.foldl (fun n c => n * 10 + (c.toNat - '0'.toNat)) 0 =
      Nat.ofDigitChars 10 digits 0 := by
    simp only [Nat.ofDigitChars_eq_foldl, Nat.mul_comm]
  unfold index?
  rw [number]
  cases digits with
  | nil => rfl
  | cons c cs => simp

theorem IsIndex.index? {digits : List Char} (h : IsIndex digits) :
    Template.index? digits = some (Nat.ofDigitChars 10 digits 0) := by
  rw [index?_eq, if_pos ⟨h.1, h.2.2⟩]

theorem isDigit_of_mem_digits (n : Nat) : ∀ d ∈ Nat.toDigits 10 n, d.isDigit = true :=
  fun _ hd => Nat.isDigit_of_mem_toDigits (by decide) (by decide) hd

theorem isIndex_toDigits {n : Nat} (hn : n < indexBound) : IsIndex (Nat.toDigits 10 n) := by
  refine ⟨Nat.toDigits_ne_nil, isDigit_of_mem_digits n, ?_⟩
  rwa [Nat.ofDigitChars_ten_toDigits]

theorem index?_replicate_append (zeros : Nat) {digits : List Char} (h : digits ≠ []) :
    Template.index? (List.replicate zeros '0' ++ digits) = Template.index? digits := by
  simp [index?_eq, Nat.ofDigitChars_append, Nat.ofDigitChars_replicate_zero, h]

/-! ### Reading -/

/-- A number is read digit by digit. -/
theorem parseIndex_digits {ds : List Char} (h : ∀ d ∈ ds, d.isDigit = true)
    (digits cs : List Char) :
    parseIndex digits (ds ++ cs) = parseIndex (ds.reverse ++ digits) cs := by
  induction ds generalizing digits with
  | nil => rfl
  | cons d ds ih =>
    obtain ⟨hd, hds⟩ := List.forall_mem_cons.1 h
    have hopen : d ≠ '}' := by
      rintro rfl
      cases hd
    rw [List.cons_append, parseIndex, if_pos hd, ih hds, List.reverse_cons, List.append_assoc]
    · rfl
    · exact hopen

/-- Text is read character by character. -/
theorem parseText_append {ds : List Char} (brace : '{' ∉ ds) (read cs : List Char) :
    parseText read (ds ++ cs) = parseText (ds.reverse ++ read) cs := by
  induction ds generalizing read with
  | nil => rfl
  | cons d ds ih =>
    rw [List.mem_cons, not_or] at brace
    rw [List.cons_append, parseText, ih brace.2, List.reverse_cons, List.append_assoc]
    · rfl
    · exact Ne.symm brace.1

/-- A complete placeholder is read. -/
theorem parseText_placeholder {digits : List Char} (h : IsIndex digits) (read cs : List Char) :
    parseText read ('{' :: (digits ++ '}' :: cs)) = (parseText [] cs).map fun segments =>
      textSegment read ++ .operand (Nat.ofDigitChars 10 digits 0) :: segments := by
  rw [parseText, parseIndex_digits h.2.1, List.append_nil, parseIndex, List.reverse_reverse,
    h.index?]
  cases parseText [] cs <;> rfl

/-- What completes no placeholder is refused. -/
theorem parseText_badPlaceholder {after : List Char} {e : TemplateError}
    (h : BadPlaceholder after e) (read : List Char) :
    parseText read ('{' :: after) = .error e := by
  rw [parseText]
  cases h with
  | unexpected hdigits hc hopen =>
    rw [parseIndex_digits hdigits, parseIndex, if_neg (Bool.not_eq_true _ ▸ hc)]
    · rfl
    · exact hopen
  | unterminated hdigits =>
    rw [← List.append_nil after, parseIndex_digits hdigits, parseIndex]
    rfl
  | @noIndex digits cs hdigits missing =>
    have none : index? digits = none := by
      rw [index?_eq, if_neg]
      rintro ⟨present, bound⟩
      exact missing.elim present (Nat.not_le.2 bound)
    rw [parseIndex_digits hdigits, List.append_nil, parseIndex, List.reverse_reverse, none]
    rfl

/-- A text is refused for the placeholder that comes after a source form and is bad. -/
theorem parseText_append_badPlaceholder {before after : List Char} {e : TemplateError}
    (form : SourceForm before) (bad : BadPlaceholder after e) (read : List Char) :
    parseText read (before ++ '{' :: after) = .error e := by
  induction form generalizing read with
  | nil => exact parseText_badPlaceholder bad read
  | text hc _ ih =>
    rw [List.cons_append, parseText]
    · exact ih _
    · exact hc
  | @placeholder digits cs index _ ih =>
    rw [List.cons_append, List.append_assoc, List.cons_append, parseText_placeholder index, ih]
    rfl

/-! ### The first bad placeholder -/

/-- After an opening brace a placeholder is completed, or it is not for some reason. -/
theorem completesPlaceholder_or_bad (after : List Char) :
    CompletesPlaceholder after ∨ ∃ e, BadPlaceholder after e := by
  have hdigits : ∀ d ∈ after.takeWhile Char.isDigit, d.isDigit = true :=
    List.all_eq_true.1 List.all_takeWhile
  -- What follows the digits decides: the closing brace, another character or the end.
  rw [← after.takeWhile_append_dropWhile (p := Char.isDigit)]
  generalize after.takeWhile Char.isDigit = digits at hdigits ⊢
  cases hrest : after.dropWhile Char.isDigit with
  | nil =>
    rw [List.append_nil]
    exact .inr ⟨_, .unterminated hdigits⟩
  | cons c rest =>
    by_cases hopen : c = '}'
    · subst hopen
      by_cases index : IsIndex digits
      · exact .inl ⟨digits, rest, rfl, index⟩
      · refine .inr ⟨_, .noIndex hdigits ?_⟩
        by_contra! present
        exact index ⟨present.1, hdigits, present.2⟩
    · have hc : c.isDigit = false := by
        have := List.head_dropWhile_not Char.isDigit (l := after) (by simp [hrest])
        simpa [hrest] using this
      exact .inr ⟨_, .unexpected hdigits hc hopen⟩

/-- A text is a source form, or an opening brace that follows one begins no placeholder. -/
theorem sourceForm_or_not_completesPlaceholder (cs : List Char) : SourceForm cs ∨
    ∃ before after, cs = before ++ '{' :: after ∧ SourceForm before ∧
      ¬ CompletesPlaceholder after := by
  induction hn : cs.length using Nat.strongRecOn generalizing cs with
  | ind n ih =>
    subst hn
    cases cs with
    | nil => exact .inl .nil
    | cons c cs =>
      by_cases hc : c = '{'
      · subst hc
        by_cases completes : CompletesPlaceholder cs
        · obtain ⟨digits, rest, rfl, index⟩ := completes
          obtain form | ⟨before, after, rfl, form, incomplete⟩ :=
            ih rest.length (by simp; omega) rest rfl
          · exact .inl (.placeholder index form)
          · exact .inr ⟨_, after, by simp, .placeholder index form, incomplete⟩
        · exact .inr ⟨[], cs, rfl, .nil, completes⟩
      · obtain form | ⟨before, after, rfl, form, incomplete⟩ := ih cs.length (by simp) cs rfl
        · exact .inl (.text hc form)
        · exact .inr ⟨_, after, rfl, .text hc form, incomplete⟩

/-! ### What is read -/

/-- The characters of the source form of pieces. -/
def sourceChars (segments : List Segment) : List Char :=
  segments.flatMap fun segment => (segmentSource segment).toList

theorem toList_source (t : Template) : t.source.toList = sourceChars t.segments := by
  simp only [source, String.toList_join, List.map_map, sourceChars, List.flatMap_def]
  rfl

@[simp] theorem sourceChars_nil : sourceChars [] = [] := rfl

@[simp] theorem sourceChars_text (s : String) (segments : List Segment) :
    sourceChars (.text s :: segments) = s.toList ++ sourceChars segments := rfl

@[simp] theorem sourceChars_operand (n : Nat) (segments : List Segment) :
    sourceChars (.operand n :: segments) =
      '{' :: (Nat.toDigits 10 n ++ '}' :: sourceChars segments) := by
  simp [sourceChars, segmentSource]

theorem sourceChars_textSegment (read : List Char) (segments : List Segment) :
    sourceChars (textSegment read ++ segments) = read.reverse ++ sourceChars segments := by
  cases read with
  | nil => rfl
  | cons c cs => simp [textSegment]

/-- Text that was read may stand before pieces that do not begin with text. -/
theorem Canonical.append_textSegment {read : List Char} {segments : List Segment}
    (brace : '{' ∉ read) (head : ∀ next ∈ segments.head?, isText next = false)
    (rest : Canonical segments) : Canonical (textSegment read ++ segments) := by
  cases read with
  | nil => exact rest
  | cons c cs =>
    refine .text ?_ ?_ head rest
    · simp
    · simpa [and_comm] using brace

theorem UpToZeros.append_text {xs cs ds : List Char} (brace : '{' ∉ xs) (h : UpToZeros cs ds) :
    UpToZeros (xs ++ cs) (xs ++ ds) := by
  induction xs with
  | nil => exact h
  | cons x xs ih =>
    rw [List.mem_cons, not_or] at brace
    exact .text (Ne.symm brace.1) (ih brace.2)

/-- A source form is read, the text before it included. -/
theorem parseText_sourceForm {cs : List Char} (form : SourceForm cs) {read : List Char}
    (brace : '{' ∉ read) : ∃ segments, parseText read cs = .ok segments ∧ Canonical segments ∧
      UpToZeros (read.reverse ++ cs) (sourceChars segments) := by
  induction form generalizing read with
  | nil =>
    refine ⟨textSegment read ++ [], by rw [parseText, List.append_nil], ?_, ?_⟩
    · exact Canonical.nil.append_textSegment brace nofun
    · rw [sourceChars_textSegment]
      exact UpToZeros.nil.append_text (by simpa using brace)
  | @text c cs hc _ ih =>
    have brace' : '{' ∉ c :: read := by
      simpa [Ne.symm hc] using brace
    obtain ⟨segments, hparse, canonical, same⟩ := ih brace'
    refine ⟨segments, ?_, canonical, by simpa using same⟩
    rw [parseText]
    · exact hparse
    · exact hc
  | @placeholder digits cs index _ ih =>
    -- The text before it ends here, and behind it reading starts anew.
    obtain ⟨segments, hparse, canonical, same⟩ := @ih [] List.not_mem_nil
    refine ⟨_, by rw [parseText_placeholder index, hparse]; rfl, ?_, ?_⟩
    · exact (canonical.operand index.2.2).append_textSegment brace (by simp [isText])
    · obtain ⟨zeros, hzeros⟩ := eq_zeros_append_toDigits index.1 index.2.1
      rw [sourceChars_textSegment, sourceChars_operand]
      refine UpToZeros.append_text (by simpa using brace) ?_
      generalize Nat.ofDigitChars 10 digits 0 = n at hzeros ⊢
      rw [hzeros]
      exact .placeholder zeros Nat.toDigits_ne_nil (isDigit_of_mem_digits _) same

/-- Zeros before a number make no difference to what is read. -/
theorem parseText_upToZeros {cs ds : List Char} (h : UpToZeros cs ds) (read : List Char) :
    parseText read cs = parseText read ds := by
  induction h generalizing read with
  | nil => rfl
  | text hc _ ih =>
    rw [parseText, parseText]
    · exact ih _
    · exact hc
    · exact hc
  | @placeholder digits cs ds zeros present hdigits _ ih =>
    have zero : ∀ d ∈ List.replicate zeros '0', d.isDigit = true := by
      intro d hd
      rw [List.eq_of_mem_replicate hd]
      rfl
    have all : ∀ d ∈ List.replicate zeros '0' ++ digits, d.isDigit = true :=
      List.forall_mem_append.2 ⟨zero, hdigits⟩
    rw [parseText, parseText, parseIndex_digits all, parseIndex_digits hdigits, parseIndex,
      parseIndex, List.append_nil, List.append_nil, List.reverse_reverse, List.reverse_reverse,
      index?_replicate_append zeros present]
    cases index? digits with
    | none => rfl
    | some n => simp only [ih]

/-- Pieces are read from their own source form. -/
theorem parseText_sourceChars {segments : List Segment} (h : Canonical segments)
    {read : List Char} (head : read = [] ∨ ∀ next ∈ segments.head?, isText next = false) :
    parseText read (sourceChars segments) = .ok (textSegment read ++ segments) := by
  induction segments generalizing read with
  | nil => rw [sourceChars_nil, parseText, List.append_nil]
  | cons segment segments ih =>
    cases segment with
    | operand n =>
      have index := isIndex_toDigits (h.index_lt n List.mem_cons_self)
      rw [sourceChars_operand, parseText_placeholder index, ih h.tail (.inl rfl),
        Nat.ofDigitChars_ten_toDigits]
      rfl
    | text s =>
      obtain rfl | head := head
      · have brace := h.brace_not_mem s List.mem_cons_self
        rw [sourceChars_text, parseText_append brace, List.append_nil, ih h.tail (.inr h.head)]
        have : s.toList ≠ [] := by simpa using h.text_ne_empty s List.mem_cons_self
        simp [textSegment, this]
      · cases head _ rfl

/-! ### Reading accepts what is well formed -/

theorem parse_of_sourceForm {source : String} (form : SourceForm source.toList) :
    ∃ t, parse source = .ok t ∧ Canonical t.segments ∧
      UpToZeros source.toList t.source.toList := by
  obtain ⟨segments, hparse, canonical, same⟩ := parseText_sourceForm form List.not_mem_nil
  refine ⟨⟨segments⟩, ?_, canonical, ?_⟩
  · rw [parse, hparse]
    rfl
  · rw [toList_source]
    exact same

theorem parse_of_bad {source : String} {before after : List Char} {e : TemplateError}
    (heq : source.toList = before ++ '{' :: after) (form : SourceForm before)
    (bad : BadPlaceholder after e) : parse source = .error e := by
  rw [parse, heq, parseText_append_badPlaceholder form bad]
  rfl

theorem parse_source_of_canonical {t : Template} (h : Canonical t.segments) :
    parse t.source = .ok t := by
  rw [parse, toList_source, parseText_sourceChars h (.inl rfl)]
  rfl

/-- A text is read, or its first bad placeholder is the reason that it is not. -/
theorem sourceForm_or_bad (source : String) : SourceForm source.toList ∨
    ∃ before after e, source.toList = before ++ '{' :: after ∧ SourceForm before ∧
      BadPlaceholder after e := by
  obtain form | ⟨before, after, heq, form, incomplete⟩ :=
    sourceForm_or_not_completesPlaceholder source.toList
  · exact .inl form
  · obtain ⟨e, bad⟩ := (completesPlaceholder_or_bad after).resolve_left incomplete
    exact .inr ⟨before, after, e, heq, form, bad⟩

theorem parse_eq_ok_iff {source : String} {t : Template} : parse source = .ok t ↔
    Canonical t.segments ∧ UpToZeros source.toList t.source.toList := by
  constructor
  · intro h
    obtain form | ⟨before, after, e, heq, form, bad⟩ := sourceForm_or_bad source
    · obtain ⟨u, hu, canonical, same⟩ := parse_of_sourceForm form
      obtain rfl : u = t := Except.ok.inj (hu.symm.trans h)
      exact ⟨canonical, same⟩
    · rw [parse_of_bad heq form bad] at h
      cases h
  · rintro ⟨canonical, same⟩
    rw [← parse_source_of_canonical canonical, parse, parse, parseText_upToZeros same]

theorem parse_eq_error_iff {source : String} {e : TemplateError} : parse source = .error e ↔
    ∃ before after, source.toList = before ++ '{' :: after ∧ SourceForm before ∧
      BadPlaceholder after e := by
  constructor
  · intro h
    obtain form | ⟨before, after, e', heq, form, bad⟩ := sourceForm_or_bad source
    · obtain ⟨t, ht, -⟩ := parse_of_sourceForm form
      rw [ht] at h
      cases h
    · obtain rfl : e' = e := Except.error.inj ((parse_of_bad heq form bad).symm.trans h)
      exact ⟨before, after, heq, form, bad⟩
  · rintro ⟨before, after, heq, form, bad⟩
    exact parse_of_bad heq form bad

theorem exists_parse_eq_ok_iff {source : String} : (∃ t, parse source = .ok t) ↔
    ∀ before after, source.toList = before ++ '{' :: after → SourceForm before →
      CompletesPlaceholder after := by
  constructor
  · rintro ⟨t, ht⟩ before after heq form
    refine (completesPlaceholder_or_bad after).resolve_right ?_
    rintro ⟨e, bad⟩
    rw [parse_of_bad heq form bad] at ht
    cases ht
  · intro h
    obtain form | ⟨before, after, heq, form, incomplete⟩ :=
      sourceForm_or_not_completesPlaceholder source.toList
    · obtain ⟨t, ht, -⟩ := parse_of_sourceForm form
      exact ⟨t, ht⟩
    · exact absurd (h before after heq form) incomplete

/-- **Reading accepts exactly the source forms and loses nothing but zeros.** A text is read exactly
if every opening brace that is not in a placeholder begins one; the pieces are canonical, and their
source form is the text but for zeros before numbers. Canonical pieces, and no others, are read from
their own source form. A text that is not read is refused for its first bad placeholder: a character
in it that is no digit, the end of the text, or digits that are missing or too many. -/
theorem parse_exact :
    (∀ source : String,
      ((∃ t, parse source = .ok t) ↔ ∀ before after, source.toList = before ++ '{' :: after →
        SourceForm before → CompletesPlaceholder after) ∧
      (∀ t, parse source = .ok t ↔
        Canonical t.segments ∧ UpToZeros source.toList t.source.toList) ∧
      ∀ e, parse source = .error e ↔ ∃ before after, source.toList = before ++ '{' :: after ∧
        SourceForm before ∧ BadPlaceholder after e) ∧
    ∀ t : Template, parse t.source = .ok t ↔ Canonical t.segments := by
  refine ⟨fun source => ⟨exists_parse_eq_ok_iff, fun t => parse_eq_ok_iff,
    fun e => parse_eq_error_iff⟩, fun t => ⟨?_, parse_source_of_canonical⟩⟩
  intro h
  exact (parse_eq_ok_iff.1 h).1

/-- The greatest index is read, zeros before it are not kept, and a closing brace is text. The index
after the greatest is refused, although the text ends inside a later placeholder. -/
theorem parse_exact_greatest :
    parse "\x7b0018446744073709551615\x7d\x7d" =
      .ok ⟨[.operand 18446744073709551615, .text "\x7d"]⟩ ∧
    parse "a\x7b18446744073709551616\x7d\x7b" = .error .noIndex := by
  constructor
  · have canonical : Canonical [.operand 18446744073709551615, .text "\x7d"] :=
      .operand (by decide) (.text (by decide) (by decide) nofun .nil)
    refine ((parse_exact.1 _).2.1 _).2 ⟨canonical, ?_⟩
    exact @UpToZeros.placeholder (Nat.toDigits 10 18446744073709551615) ['}'] ['}'] 2
      Nat.toDigits_ne_nil (isDigit_of_mem_digits _) (.text (by decide) .nil)
  · refine ((parse_exact.1 _).2.2 _).2 ⟨['a'],
      Nat.toDigits 10 18446744073709551616 ++ '}' :: ['{'], rfl, .text (by decide) .nil, ?_⟩
    exact .noIndex (isDigit_of_mem_digits _) (.inr (Nat.ofDigitChars_ten_toDigits.ge))

end Template

end StoreQuery
