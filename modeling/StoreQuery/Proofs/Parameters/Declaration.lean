import StoreQuery.Proofs.Config.Obtainable
import StoreQuery.Proofs.Parameters.Alignment
import StoreQuery.Recorder

/-!
# Declarations and their pieces

Parameters are declared in one text, with commas between. If the words for labels are identifiers,
no label and no name of a class holds a comma, so that the text falls into one piece for each
parameter.

* `Record.pieces_intercalate` : pieces without commas that are joined are found again;
* `Config.WordsValid.isWordChar_of_mem_label` : what labels are made of;
* `planOf_aligned` : **as many parameters are declared as values are bound.**
-/

namespace StoreQuery

namespace Record

/-! ### Joining and splitting -/

theorem pieces_cons_of_ne {c : Char} (h : c ≠ ',') (cs : List Char) :
    pieces (c :: cs) = (pieces cs).modifyHead (c :: ·) := by
  rw [pieces]
  rintro cs rfl
  exact absurd rfl h

theorem pieces_of_not_mem {cs : List Char} (h : ',' ∉ cs) : pieces cs = [cs] := by
  induction cs with
  | nil => rfl
  | cons c cs ih =>
    rw [List.mem_cons, not_or] at h
    rw [pieces_cons_of_ne (Ne.symm h.1), ih h.2]
    rfl

theorem pieces_append {cs : List Char} (h : ',' ∉ cs) (rest : List Char) :
    pieces (cs ++ ',' :: ' ' :: rest) = cs :: pieces rest := by
  induction cs with
  | nil => rfl
  | cons c cs ih =>
    rw [List.mem_cons, not_or] at h
    rw [List.cons_append, pieces_cons_of_ne (Ne.symm h.1), ih h.2]
    rfl

/-- Pieces without commas that are joined are found again. -/
theorem pieces_intercalate {ds : List (List Char)} (hds : ds ≠ []) (h : ∀ d ∈ ds, ',' ∉ d) :
    pieces (List.intercalate [',', ' '] ds) = ds := by
  induction ds with
  | nil => exact absurd rfl hds
  | cons d ds ih =>
    rw [List.forall_mem_cons] at h
    cases ds with
    | nil => rw [List.intercalate_singleton, pieces_of_not_mem h.1]
    | cons d' ds =>
      rw [List.intercalate_cons_cons, List.append_assoc]
      exact (pieces_append h.1 _).trans (congrArg _ (ih (List.cons_ne_nil _ _) h.2))

end Record

/-! ### Characters of labels -/

/-- The character may stand in an identifier. -/
def isWordChar (c : Char) : Bool := c.isAlphanum || c == '_'

theorem isWordChar_of_isDigit {c : Char} (h : c.isDigit = true) : isWordChar c = true := by
  simp [isWordChar, Char.isAlphanum, h]

theorem Config.isWordChar_of_isIdentifier {word : String} (h : isIdentifier word = true) :
    ∀ c ∈ word.toList, isWordChar c = true := by
  rw [isIdentifier, Bool.and_eq_true, List.all_eq_true] at h
  exact h.2

namespace LabelScheme

theorem isWordChar_of_mem_letter {n : Nat} (hn : n < 26) {c : Char} (h : c ∈ (letter n).toList) :
    isWordChar c = true := by
  rw [letter_toList, List.mem_singleton] at h
  subst h
  revert n
  decide

theorem isWordChar_of_mem_alphabetic {n : Nat} {c : Char}
    (h : c ∈ (label .alphabetic n).toList) : isWordChar c = true := by
  rw [label_alphabetic, String.toList_append] at h
  rcases List.mem_append.1 h with h | h
  · exact isWordChar_of_mem_letter (Nat.mod_lt _ (by decide)) h
  · exact isWordChar_of_isDigit (isDigit_of_mem_rounds h)

theorem isWordChar_of_mem_numbered {word : String} (hword : Config.isIdentifier word = true)
    {n : Nat} {c : Char} (h : c ∈ (label (.numbered word) n).toList) : isWordChar c = true := by
  rw [label, String.toList_append] at h
  rcases List.mem_append.1 h with h | h
  · exact Config.isWordChar_of_isIdentifier hword c h
  · exact isWordChar_of_isDigit (isDigit_of_mem_repr h)

end LabelScheme

/-- Labels are made of the characters of identifiers. -/
theorem Config.WordsValid.isWordChar_of_mem_label {config : Config} (h : config.WordsValid)
    {scheme : LabelScheme} (hscheme : scheme ∈ config.schemes) {n : Nat} {c : Char}
    (hc : c ∈ (scheme.label n).toList) : isWordChar c = true := by
  simp only [schemes, List.mem_cons, List.not_mem_nil, or_false] at hscheme
  rcases hscheme with rfl | rfl | rfl
  · exact LabelScheme.isWordChar_of_mem_alphabetic hc
  · exact LabelScheme.isWordChar_of_mem_numbered h.group hc
  · exact LabelScheme.isWordChar_of_mem_numbered h.column hc

/-! ### Parameters that are declared -/

namespace Bindings

theorem comma_not_mem_declare {e : Binding} (h : ∀ c ∈ e.label.toList, isWordChar c = true) :
    ',' ∉ (declare e).toList := by
  have class_name : ',' ∉ e.value.className.toList := by
    cases e.value <;> simp [Value.className]
  have label : ',' ∉ e.label.toList := fun hc => absurd (h _ hc) (by decide)
  simp [declare, class_name, label]

/-- Of every parameter there is one piece. -/
theorem pieces_declaration {b : Bindings}
    (h : ∀ e ∈ b.entries, ∀ c ∈ e.label.toList, isWordChar c = true) {text : String}
    (htext : b.declaration = some text) :
    Record.pieces text.toList = b.entries.map fun e => (declare e).toList := by
  unfold declaration at htext
  split at htext
  · cases htext
  · rename_i hentries
    obtain rfl := Option.some.inj htext
    rw [String.toList_intercalate, List.map_map]
    refine Record.pieces_intercalate (by simpa using hentries) ?_
    intro d hd
    obtain ⟨e, he, rfl⟩ := List.mem_map.1 hd
    exact comma_not_mem_declare (h e he)

/-- As many parameters are declared as there are values. -/
theorem declaredCount_eq {b : Bindings}
    (h : ∀ e ∈ b.entries, ∀ c ∈ e.label.toList, isWordChar c = true) {r : Record}
    (hr : r.parameters = b.declaration) : r.declaredCount = b.values.length := by
  rw [Record.declaredCount, hr, values, List.length_map]
  cases htext : b.declaration with
  | some text => simp [pieces_declaration h htext]
  | none =>
    have : b.entries = [] := by simpa [declaration] using htext
    simp [this]

end Bindings

/-- The labels of a plan are made of the characters of identifiers. -/
theorem isWordChar_of_mem_parameters {config : Config} (hconfig : config.Obtainable)
    {sources : List Source} {c : Clauses} {extra : List Expr} {mode : Mode} {plan : Plan}
    (h : planOf config sources c extra mode = .ok plan) {e : Binding}
    (he : e ∈ plan.parameters.entries) {ch : Char} (hch : ch ∈ e.label.toList) :
    isWordChar ch = true := by
  obtain ⟨f, filter, hf, hfilter, hassemble⟩ := planOf_eq_ok h
  have hf : f.config = config := Frame.config_of_ofSources? hf
  rw [(f.parameters_of_assemble hfilter hassemble).1] at he
  obtain ⟨scheme, hscheme, n, hn⟩ := f.exists_label_of_mem_parameters he
  exact hconfig.wordsValid.isWordChar_of_mem_label (hf ▸ hscheme) (hn ▸ hch)

/-- **As many parameters are declared as values are bound**, in any record of a plan. -/
theorem planOf_aligned {config : Config} (hconfig : config.Obtainable) {sources : List Source}
    {c : Clauses} {extra : List Expr} {mode : Mode} {plan : Plan}
    (h : planOf config sources c extra mode = .ok plan) {r : Record}
    (hr : r.parameters = plan.parameters.declaration) :
    r.declaredCount = plan.parameters.values.length :=
  Bindings.declaredCount_eq (fun _ he _ hch => isWordChar_of_mem_parameters hconfig h he hch) hr

end StoreQuery
