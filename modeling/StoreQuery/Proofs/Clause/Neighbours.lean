import Mathlib.Data.List.Chain
import StoreQuery.Proofs.Clause.Refusals
import StoreQuery.Proofs.Text.Tokens

/-!
# Neighbouring marks

The texts of templates and operands are written one after another with nothing between them. Blanks,
points, parentheses and commas at the ends of the template texts keep them apart, so that characters
on the two sides of a border do not fuse into one token. One template has none of these: a minus
stands right before its operand, which may begin with a minus itself if it is a negation.

* `Mark.Apart` : the characters at the border of two marks do not fuse;
* `Operator.isChain_template` : whatever the operands are, the pieces of a template are apart;
* `Patterns.isChain_marks` : so are the marks of an expression that negates no negation;
* `Patterns.double_minus` : otherwise two marks for a minus are neighbours.
-/

namespace StoreQuery

namespace Lexer

/-- The character, or `a` for any character of a name. -/
def kind (c : Char) : Char := if isNameChar c then 'a' else c

theorem isNameChar_kind (c : Char) : isNameChar (kind c) = isNameChar c := by
  unfold kind
  split
  · rename_i h
    rw [h]
    decide
  · rfl

/-- With a character of a name only another one fuses. -/
theorem fuses_of_left {c : Char} (hc : isNameChar c = true) (d : Char) :
    fuses c d = isNameChar d := by
  have : (c, d) ∉ doubles := fun h => by simp [(isNameChar_of_mem_doubles h).1] at hc
  simp [fuses, hc, this]

theorem fuses_of_right (c : Char) {d : Char} (hd : isNameChar d = true) :
    fuses c d = isNameChar c := by
  have : (c, d) ∉ doubles := fun h => by simp [(isNameChar_of_mem_doubles h).2] at hd
  simp [fuses, hd, this]

theorem fuses_kind (c d : Char) : fuses (kind c) (kind d) = fuses c d := by
  cases hc : isNameChar c with
  | true =>
    rw [fuses_of_left ((isNameChar_kind c).trans hc), isNameChar_kind, fuses_of_left hc]
  | false =>
    have same : kind c = c := by simp [kind, hc]
    rw [same]
    cases hd : isNameChar d with
    | true => rw [fuses_of_right c ((isNameChar_kind d).trans hd), fuses_of_right c hd]
    | false => simp [kind, hd]

/-- No character of one list fuses with one of the other. -/
def apart (cs ds : List Char) : Bool := cs.all fun c => ds.all fun d => !fuses c d

theorem fuses_of_apart {cs ds : List Char} (h : apart cs ds = true) {c d : Char} (hc : c ∈ cs)
    (hd : d ∈ ds) : fuses c d = false := by
  simp only [apart, List.all_eq_true, Bool.not_eq_true'] at h
  exact h c hc d hd

end Lexer

/-! ### Marks -/

namespace Mark

/-- The kind of the first character that a mark writes. A leaf is written as a name. -/
def first? : Mark → Option Char
  | .text s => s.toList.head?.map Lexer.kind
  | .leaf _ => some 'a'
  | .refuse _ => none

/-- The kind of the last character that a mark writes. -/
def last? : Mark → Option Char
  | .text s => s.toList.getLast?.map Lexer.kind
  | .leaf _ => some 'a'
  | .refuse _ => none

/-- The characters at the border of two marks do not fuse. -/
def Apart (m n : Mark) : Prop := ∀ c ∈ m.last?, ∀ d ∈ n.first?, Lexer.fuses c d = false

/-- The kinds of characters with which an expression may begin. -/
def openings : List Char := ['a', '(', '!', '-']

/-- The kinds of characters with which an expression may end. -/
def closings : List Char := ['a', ')']

/-- The marks begin and end as those of an expression may. -/
structure Edges (ms : List Mark) : Prop where
  /-- There are marks. -/
  ne_nil : ms ≠ []
  /-- The first one begins in one of few ways. -/
  first : ∀ m ∈ ms.head?, ∀ c ∈ m.first?, c ∈ openings
  /-- The last one ends in one of few ways. -/
  last : ∀ m ∈ ms.getLast?, ∀ c ∈ m.last?, c ∈ closings

theorem edges_leaf (l : Leaf) : Edges [.leaf l] where
  ne_nil := List.cons_ne_nil _ _
  first := by simp [first?, openings]
  last := by simp [last?, closings]

theorem edges_refuse (e : ClauseError) : Edges [.refuse e] where
  ne_nil := List.cons_ne_nil _ _
  first := by simp [first?]
  last := by simp [last?]

theorem apart_opening {ms : List Mark} (h : Edges ms) : ∀ m ∈ ms.head?, Apart (.text "(") m := by
  have all : Lexer.apart ['('] openings = true := by decide
  intro m hm c hc d hd
  obtain rfl : '(' = c := Option.some.inj hc
  exact Lexer.fuses_of_apart all (List.mem_singleton_self _) (h.first m hm d hd)

theorem apart_closing {ms : List Mark} (h : Edges ms) :
    ∀ m ∈ ms.getLast?, Apart m (.text ")") := by
  have all : Lexer.apart closings [')'] = true := by decide
  intro m hm c hc d hd
  obtain rfl : ')' = d := Option.some.inj hd
  exact Lexer.fuses_of_apart all (h.last m hm c hc) (List.mem_singleton_self _)

end Mark

/-! ### Templates -/

namespace Segment

/-- The kinds of characters with which the text of a piece may begin. -/
def firsts : Segment → List Char
  | .text s => (Mark.text s).first?.toList
  | .operand _ => Mark.openings

/-- The kinds of characters with which the text of a piece may end. -/
def lasts : Segment → List Char
  | .text s => (Mark.text s).last?.toList
  | .operand _ => Mark.closings

/-- Whatever stands for two pieces, the characters at their border do not fuse. -/
def Apart (s t : Segment) : Prop := Lexer.apart s.lasts t.firsts = true

instance (s t : Segment) : Decidable (s.Apart t) :=
  inferInstanceAs (Decidable (Lexer.apart s.lasts t.firsts = true))

end Segment

namespace Operator

/-- The pieces of a template are apart, except for a minus in front of its operand. -/
theorem isChain_template {op : Operator} (h : op ≠ .neg) :
    op.template.segments.IsChain Segment.Apart := by
  cases op <;> first | exact absurd rfl h | decide +kernel

/-- A template begins and ends as expressions may. -/
theorem template_edges (op : Operator) : op.template.segments ≠ [] ∧
    (∀ s ∈ op.template.segments.head?, s.firsts.all Mark.openings.contains = true) ∧
      ∀ s ∈ op.template.segments.getLast?, s.lasts.all Mark.closings.contains = true := by
  cases op <;> decide +kernel

/-- No template has an empty text. -/
theorem text_ne_empty (op : Operator) : ∀ s ∈ op.template.segments, s ≠ .text "" := by
  cases op <;> decide

/-- An operand that is looser than its place is in parentheses. -/
theorem wraps_of_lt {parent child : Operator} (h : child.strength < parent.operandStrength)
    (index : Nat) : parent.wraps child index = true := by
  rw [wraps, if_neg h.ne]
  exact decide_eq_true h

/-- The template starts with an operand, and is loose itself or wants an operand that is tighter
than a negation; or it starts with a text that is no minus. -/
def startsOtherwise (op : Operator) : Segment × Bool → Bool
  | (.operand _, enclosed) =>
    !enclosed && (op.strength < .unary || Strength.unary < op.operandStrength)
  | (.text s, _) => (Mark.text s).first? != some '-'

theorem all_startsOtherwise {op : Operator} (h : op ≠ .neg) :
    op.template.slots.head?.all op.startsOtherwise = true := by
  cases op <;> first | exact absurd rfl h | decide

end Operator

namespace Expr

/-- A negation is negated somewhere in the expression. -/
inductive NegatesNegation : Expr → Prop where
  | here (xs : List Expr) : NegatesNegation (.apply .neg [.apply .neg xs])
  | inside {op : Operator} {xs : List Expr} {x : Expr} (hx : x ∈ xs) (h : NegatesNegation x) :
      NegatesNegation (.apply op xs)

@[simp] theorem not_negatesNegation_literal (v : Value) : ¬ NegatesNegation (.literal v) := nofun

@[simp] theorem not_negatesNegation_path (q : Path) : ¬ NegatesNegation (.path q) := nofun

theorem negatesNegation_apply_iff {op : Operator} {xs : List Expr} :
    NegatesNegation (.apply op xs) ↔
      (op = .neg ∧ ∃ ys, xs = [.apply .neg ys]) ∨ ∃ x ∈ xs, NegatesNegation x := by
  constructor
  · rintro (_ | ⟨hx, h⟩)
    · exact .inl ⟨rfl, _, rfl⟩
    · exact .inr ⟨_, hx, h⟩
  · rintro (⟨rfl, ys, rfl⟩ | ⟨x, hx, h⟩)
    · exact .here ys
    · exact .inside hx h

end Expr

namespace Patterns

/-! ### Edges -/

theorem marks_apply {P : Patterns} {op : Operator} {xs : List Expr}
    (h : (Expr.apply op xs).WellFormed) : P.marks (.apply op xs) =
      (P.template op).slots.flatMap (slotMarks op (xs.map fun x => (x, P.marks x))) := by
  obtain ⟨arity, fits, -⟩ := Expr.wellFormed_apply_iff.1 h
  simp [marks, applicationMarks, arity, fits_iff.2 fits, Function.comp_def]

theorem edges_operandMarks (op : Operator) (index : Nat) (enclosed : Bool)
    {x : Expr × List Mark} (h : Mark.Edges x.2) :
    Mark.Edges (operandMarks op index enclosed x) := by
  unfold operandMarks
  split
  · exact {
      ne_nil := List.cons_ne_nil _ _
      first := by
        intro m hm c hc
        obtain rfl := Option.some.inj hm
        obtain rfl := Option.some.inj hc
        decide
      last := by
        intro m hm c hc
        rw [← List.cons_append, List.getLast?_concat] at hm
        obtain rfl := Option.some.inj hm
        obtain rfl := Option.some.inj hc
        decide }
  · exact h

variable {op : Operator} {operands : List (Expr × List Mark)}

/-- The marks of a piece begin and end as the piece may. -/
theorem edges_slotMarks (op : Operator) (h : ∀ x ∈ operands, Mark.Edges x.2)
    (s : Segment × Bool) :
    slotMarks op operands s ≠ [] ∧
      (∀ m ∈ (slotMarks op operands s).head?, ∀ c ∈ m.first?, c ∈ s.1.firsts) ∧
      ∀ m ∈ (slotMarks op operands s).getLast?, ∀ c ∈ m.last?, c ∈ s.1.lasts := by
  obtain ⟨s | index, enclosed⟩ := s
  · simp [slotMarks, Segment.firsts, Segment.lasts]
  · simp only [slotMarks]
    cases hx : operands[index]? with
    | none =>
      obtain ⟨ne_nil, first, last⟩ := Mark.edges_refuse (.missingOperand op index)
      exact ⟨ne_nil, first, last⟩
    | some x =>
      obtain ⟨ne_nil, first, last⟩ :=
        edges_operandMarks op index enclosed (h x (List.mem_of_getElem? hx))
      exact ⟨ne_nil, first, last⟩

/-- The marks of a template with operands begin and end as expressions may. -/
theorem edges_template (h : ∀ x ∈ operands, Mark.Edges x.2) :
    Mark.Edges (op.template.slots.flatMap (slotMarks op operands)) := by
  have pieces := edges_slotMarks op h
  obtain ⟨ne_nil, first, last⟩ := op.template_edges
  rw [← Template.map_fst_slots] at ne_nil first last
  generalize op.template.slots = slots at ne_nil first last ⊢
  have hslots : slots ≠ [] := by simpa using ne_nil
  constructor
  · obtain ⟨s, rest, rfl⟩ := List.exists_cons_of_ne_nil hslots
    exact List.append_ne_nil_of_left_ne_nil (pieces s).1 _
  · obtain ⟨s, rest, rfl⟩ := List.exists_cons_of_ne_nil hslots
    rw [List.flatMap_cons, List.head?_append_of_ne_nil _ (pieces s).1]
    intro m hm c hc
    have := List.all_eq_true.1 (first s.1 rfl) c ((pieces s).2.1 m hm c hc)
    exact List.contains_iff_mem.1 this
  · obtain ⟨rest, s, rfl⟩ := (List.eq_nil_or_concat' slots).resolve_left hslots
    rw [List.flatMap_append, List.flatMap_singleton,
      List.getLast?_append_of_ne_nil _ (pieces s).1]
    intro m hm c hc
    have := List.all_eq_true.1 (last s.1 (by simp)) c ((pieces s).2.2 m hm c hc)
    exact List.contains_iff_mem.1 this

/-- The marks of a well-formed expression begin and end as expressions may. -/
theorem edges_marks {e : Expr} (h : e.WellFormed) : Mark.Edges (default.marks e) := by
  induction h with
  | literal | path | className => exact Mark.edges_leaf _
  | apply arity fits operands ih =>
    rw [marks_apply (.apply arity fits operands)]
    exact edges_template (by simpa using ih)

/-! ### Neighbours -/

theorem isChain_operandMarks (op : Operator) (index : Nat) (enclosed : Bool)
    {x : Expr × List Mark} (hx : Mark.Edges x.2) (h : x.2.IsChain Mark.Apart) :
    (operandMarks op index enclosed x).IsChain Mark.Apart := by
  unfold operandMarks
  split
  · refine List.isChain_cons.2 ⟨?_, h.append (List.isChain_singleton _) ?_⟩
    · rw [List.head?_append_of_ne_nil _ hx.ne_nil]
      exact Mark.apart_opening hx
    · intro m hm n hn
      obtain rfl : Mark.text ")" = n := Option.some.inj hn
      exact Mark.apart_closing hx m hm
  · exact h

theorem isChain_slotMarks (hedges : ∀ x ∈ operands, Mark.Edges x.2)
    (h : ∀ x ∈ operands, x.2.IsChain Mark.Apart) (s : Segment × Bool) :
    (slotMarks op operands s).IsChain Mark.Apart := by
  obtain ⟨s | index, enclosed⟩ := s
  · exact List.isChain_singleton _
  · simp only [slotMarks]
    cases hx : operands[index]? with
    | none => exact List.isChain_singleton _
    | some x =>
      have hmem := List.mem_of_getElem? hx
      exact isChain_operandMarks op index enclosed (hedges x hmem) (h x hmem)

/-- The marks of all pieces are apart where the pieces are, and the marks of each piece. -/
theorem isChain_flatMap_slotMarks (hedges : ∀ x ∈ operands, Mark.Edges x.2)
    (h : ∀ x ∈ operands, x.2.IsChain Mark.Apart) {slots : List (Segment × Bool)}
    (apart : (slots.map (·.1)).IsChain Segment.Apart) :
    (slots.flatMap (slotMarks op operands)).IsChain Mark.Apart := by
  have pieces := edges_slotMarks op hedges
  rw [List.flatMap_def, List.isChain_flatten (by simpa using fun s _ hs => (pieces s).1 hs)]
  constructor
  · rw [List.forall_mem_map]
    exact fun s _ => isChain_slotMarks hedges h s
  · rw [List.isChain_map] at apart ⊢
    refine apart.imp ?_
    intro s t hst m hm n hn c hc d hd
    exact Lexer.fuses_of_apart hst ((pieces s).2.2 m hm c hc) ((pieces t).2.1 n hn d hd)

/-! ### Negations -/

theorem marks_neg (x : Expr) : default.marks (.apply .neg [x]) =
    .text "-" :: operandMarks .neg 0 false (x, default.marks x) :=
  congrArg (Mark.text "-" :: ·) (List.append_nil _)

/-- The expression is a negation or is looser than one. -/
def NegationOrLooser (x : Expr) : Prop :=
  (∃ ys, x = .apply .neg ys) ∨ ∃ op ys, x = .apply op ys ∧ op.strength < .unary

/-- At a place that is no looser than a negation, only a negation begins with a minus. -/
theorem of_minus_first_operand {index : Nat} {x : Expr} {ms : List Mark}
    (hx : ∀ m ∈ ms.head?, m.first? = some '-' → NegationOrLooser x)
    (hop : .unary ≤ op.operandStrength) {m : Mark}
    (hm : m ∈ (operandMarks op index false (x, ms)).head?) (hminus : m.first? = some '-') :
    (∃ ys, x = .apply .neg ys) ∧ Pass.needsParens op index x = false := by
  unfold operandMarks at hm
  split at hm
  · obtain rfl := Option.some.inj hm
    exact absurd hminus (by decide)
  · rename_i unwrapped
    rw [Bool.not_false, Bool.true_and, Bool.not_eq_true] at unwrapped
    refine ⟨(hx m hm hminus).resolve_right ?_, unwrapped⟩
    rintro ⟨child, ys, rfl, loose⟩
    exact absurd unwrapped (by simp [Pass.needsParens, Operator.wraps_of_lt (loose.trans_le hop)])

/-- What begins with a minus is a negation or is looser than one. -/
theorem of_minus_first {e : Expr} (h : e.WellFormed) {m : Mark}
    (hm : m ∈ (default.marks e).head?) (hminus : m.first? = some '-') : NegationOrLooser e := by
  induction h generalizing m with
  | literal | path | className =>
    obtain rfl := Option.some.inj hm
    cases hminus
  | @apply op xs arity fits operands ih =>
    by_cases hop : op = .neg
    · exact .inl ⟨xs, by rw [hop]⟩
    refine .inr ⟨op, xs, rfl, ?_⟩
    have starts := op.all_startsOtherwise hop
    rw [marks_apply (.apply arity fits operands)] at hm
    change m ∈ (op.template.slots.flatMap _).head? at hm
    -- The first slot decides: it is text, or the place of an operand.
    cases hslots : op.template.slots with
    | nil =>
      rw [hslots] at hm
      cases hm
    | cons s rest =>
      have hedges : ∀ x ∈ xs.map (fun x => (x, default.marks x)), Mark.Edges x.2 := by
        simpa using fun x hx => edges_marks (operands x hx)
      rw [hslots, List.flatMap_cons, List.head?_append_of_ne_nil _ (edges_slotMarks op hedges s).1]
        at hm
      rw [hslots] at starts
      obtain ⟨s | index, enclosed⟩ := s
      · obtain rfl := Option.some.inj hm
        simp [Operator.startsOtherwise, hminus] at starts
      · simp only [slotMarks, List.getElem?_map] at hm
        cases hx : xs[index]? with
        | none =>
          rw [hx] at hm
          obtain rfl := Option.some.inj hm
          cases hminus
        | some x =>
          rw [hx] at hm
          simp only [List.head?_cons, Option.all_some, Operator.startsOtherwise, Bool.and_eq_true,
            Bool.not_eq_true', Bool.or_eq_true, decide_eq_true_eq] at starts
          obtain ⟨rfl, loose | tight⟩ := starts
          · exact loose
          · -- A negation would be in parentheses at a place that is tighter.
            obtain ⟨⟨ys, rfl⟩, unwrapped⟩ := of_minus_first_operand
              (fun n hn => ih x (List.mem_of_getElem? hx) hn) tight.le hm hminus
            have looser : Operator.strength .neg < op.operandStrength := tight
            rw [Pass.needsParens, Operator.wraps_of_lt looser] at unwrapped
            cases unwrapped

/-- A minus is apart from its operand unless that is a negation. -/
theorem apart_minus {x : Expr} (h : x.WellFormed) (hx : ∀ ys, x ≠ .apply .neg ys) :
    ∀ m ∈ (operandMarks .neg 0 false (x, default.marks x)).head?, Mark.Apart (.text "-") m := by
  intro m hm c hc d hd
  obtain rfl : '-' = c := Option.some.inj hc
  have opens := (edges_operandMarks .neg 0 false (edges_marks h)).first m hm d hd
  have others : Lexer.apart ['-'] (Mark.openings.filter (· ≠ '-')) = true := by decide
  refine Lexer.fuses_of_apart others (List.mem_singleton_self _) (List.mem_filter.2 ⟨opens, ?_⟩)
  rw [decide_eq_true_iff]
  rintro rfl
  obtain ⟨⟨ys, rfl⟩, -⟩ :=
    of_minus_first_operand (fun n hn => of_minus_first h hn) (Nat.le_refl _) hm hd
  exact hx ys rfl

/-- The marks of an expression are apart unless it negates a negation. -/
theorem isChain_marks {e : Expr} (h : e.WellFormed) (hneg : ¬ e.NegatesNegation) :
    (default.marks e).IsChain Mark.Apart := by
  induction h with
  | literal | path | className => exact List.isChain_singleton _
  | @apply op xs arity fits operands ih =>
    rw [Expr.negatesNegation_apply_iff, not_or, not_exists] at hneg
    have inner (x : Expr) (hx : x ∈ xs) : (default.marks x).IsChain Mark.Apart :=
      ih x hx fun h => hneg.2 x ⟨hx, h⟩
    by_cases hop : op = .neg
    · subst hop
      obtain ⟨x, rfl⟩ := List.length_eq_one_iff.1 arity
      have hx := operands x (List.mem_singleton_self x)
      rw [marks_neg]
      refine List.isChain_cons.2 ⟨apart_minus hx ?_, ?_⟩
      · rintro ys rfl
        exact hneg.1 ⟨rfl, ys, rfl⟩
      · exact isChain_operandMarks .neg 0 false (edges_marks hx)
          (inner x (List.mem_singleton_self x))
    · rw [marks_apply (.apply arity fits operands)]
      refine isChain_flatMap_slotMarks (by simpa using fun x hx => edges_marks (operands x hx))
        (by simpa using inner) ?_
      rw [Template.map_fst_slots]
      exact Operator.isChain_template hop

/-- The marks of an operand stand together among those of the application. -/
theorem isInfix_marks {xs : List Expr} (h : (Expr.apply op xs).WellFormed) {x : Expr}
    (hx : x ∈ xs) : default.marks x <:+: default.marks (.apply op xs) := by
  obtain ⟨index, hindex, rfl⟩ := List.getElem_of_mem hx
  obtain ⟨arity, -, -⟩ := Expr.wellFormed_apply_iff.1 h
  obtain ⟨enclosed, hs⟩ := exists_mem_slots (asksForAll_default op index (arity ▸ hindex))
  have placed : default.marks xs[index] <:+:
      slotMarks op (xs.map fun x => (x, default.marks x)) (.operand index, enclosed) := by
    simp only [slotMarks, List.getElem?_map, List.getElem?_eq_getElem hindex, Option.map_some,
      operandMarks]
    split
    · exact ⟨[.text "("], [.text ")"], rfl⟩
    · exact List.infix_refl _
  rw [marks_apply h]
  exact placed.trans (List.infix_of_mem_flatten (List.mem_map_of_mem hs))

/-- Where a negation is negated, two marks for a minus are neighbours. -/
theorem double_minus {e : Expr} (h : e.WellFormed) (hneg : e.NegatesNegation) :
    [.text "-", .text "-"] <:+: default.marks e := by
  induction hneg with
  | here xs =>
    obtain ⟨-, -, operands⟩ := Expr.wellFormed_apply_iff.1 h
    obtain ⟨arity, -, -⟩ := Expr.wellFormed_apply_iff.1 (operands _ (List.mem_singleton_self _))
    obtain ⟨x, rfl⟩ := List.length_eq_one_iff.1 arity
    rw [marks_neg, marks_neg]
    exact ⟨[], operandMarks .neg 0 false (x, default.marks x), rfl⟩
  | inside hx _ ih =>
    obtain ⟨-, -, operands⟩ := Expr.wellFormed_apply_iff.1 h
    exact (ih (operands _ hx)).trans (isInfix_marks h hx)

/-- No mark of an expression is an empty text. -/
theorem marks_solid {e : Expr} (h : e.WellFormed) : ∀ m ∈ default.marks e, m.first? ≠ none := by
  induction h with
  | literal | path | className => simp [marks, Mark.first?]
  | @apply op xs arity fits operands ih =>
    intro m hm
    rw [marks_apply (.apply arity fits operands)] at hm
    obtain ⟨⟨s | index, enclosed⟩, hs, hm⟩ := List.mem_flatMap.1 hm
    · obtain rfl := List.mem_singleton.1 hm
      have hsegment : Segment.text s ∈ op.template.segments := by
        rw [← Template.map_fst_slots]
        exact List.mem_map_of_mem hs
      have := op.text_ne_empty _ hsegment
      simpa [Mark.first?] using this
    · have hindex := withinArity_default op index (mem_operands_of_mem_slots hs)
      rw [← arity] at hindex
      simp only [slotMarks, List.getElem?_map, List.getElem?_eq_getElem hindex,
        Option.map_some] at hm
      rcases mem_operandMarks hm with hm | rfl | rfl
      · exact ih _ (List.getElem_mem hindex) m hm
      · decide
      · decide

end Patterns

end StoreQuery
