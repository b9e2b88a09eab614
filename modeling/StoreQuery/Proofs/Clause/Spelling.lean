import Mathlib.Data.List.Forall2
import StoreQuery.Proofs.Clause.Marks
import StoreQuery.Proofs.Clause.Reader

/-!
# How marks are spelled

Of the marks of an expression, a clause refuses some and writes the others: text as it is, a path
as the clause names it, and a label for every literal but null. Labels are given along the way and
never taken back.

* `Patterns.marks_clean` : the marks of a well-formed expression hold no refusal;
* `Pass.markAll_error?` : writing marks succeeds exactly if the clause accepts all of them;
* `Pass.markAll_bindings` : the bindings are then those that the literals give, one after another;
* `Pass.extends_markAll` : accepted or not, marks leave the bindings before them as they are;
* `Pass.markAll_spells` : the text is then made of what stands for the pieces.
-/

namespace StoreQuery

namespace Mark

/-- The piece of a text that a mark writes. -/
def piece : Mark → Piece Leaf
  | .text s => .fixed s
  | .leaf (.literal v) => if v.isNull then .fixed "null" else .atom (.literal v)
  | .leaf l => .atom l
  | .refuse _ => .fixed ""

/-- The literal at a mark. -/
def literal? (m : Mark) : Option Value := m.leaf?.bind Leaf.literal?

/-- The mark ends the walk. -/
def isRefusal : Mark → Bool
  | .refuse _ => true
  | _ => false

end Mark

namespace Patterns

variable {P : Patterns}

/-- The text of an expression, with an atom for each leaf. -/
def pieces (P : Patterns) (e : Expr) : List (Piece Leaf) := (P.marks e).map Mark.piece

/-! ### Refusals -/

/-- No template asks for an operand that its operator does not take. -/
def WithinArity (P : Patterns) : Prop :=
  ∀ op, ∀ index ∈ (P.template op).operands, index < op.arity

theorem withinArity_default : default.WithinArity := by
  intro op
  cases op <;> decide

theorem mem_operands_of_mem_slots {t : Template} {index : Nat} {enclosed : Bool}
    (h : (Segment.operand index, enclosed) ∈ t.slots) : index ∈ t.operands := by
  have : Segment.operand index ∈ t.slots.map (·.1) := List.mem_map.2 ⟨_, h, rfl⟩
  rw [Template.map_fst_slots] at this
  exact List.mem_filterMap.2 ⟨_, this, rfl⟩

theorem mem_operandMarks {op : Operator} {index : Nat} {enclosed : Bool} {x : Expr × List Mark}
    {m : Mark} (h : m ∈ operandMarks op index enclosed x) :
    m ∈ x.2 ∨ m = .text "(" ∨ m = .text ")" := by
  unfold operandMarks at h
  split at h
  · simp only [List.mem_cons, List.mem_append, List.not_mem_nil, or_false] at h
    obtain h | h | h := h
    · exact .inr (.inl h)
    · exact .inl h
    · exact .inr (.inr h)
  · exact .inl h

/-- What holds of text and of the marks of all operands holds of the marks of every piece. -/
theorem forall_mem_slotMarks (hP : P.WithinArity) {Q : Mark → Prop} (htext : ∀ s, Q (.text s))
    {op : Operator} {xs : List Expr} (arity : xs.length = op.arity)
    (h : ∀ x ∈ xs, ∀ m ∈ P.marks x, Q m) :
    ∀ s ∈ (P.template op).slots, ∀ m ∈ slotMarks op (xs.map fun x => (x, P.marks x)) s, Q m := by
  rintro ⟨s | index, enclosed⟩ hs m hm
  · obtain rfl := List.mem_singleton.1 hm
    exact htext s
  · have hindex := hP op index (mem_operands_of_mem_slots hs)
    rw [← arity] at hindex
    simp only [slotMarks, List.getElem?_map, List.getElem?_eq_getElem hindex,
      Option.map_some] at hm
    rcases mem_operandMarks hm with hm | rfl | rfl
    · exact h _ (List.getElem_mem hindex) m hm
    · exact htext _
    · exact htext _

/-- The marks of a well-formed expression hold no refusal. -/
theorem marks_clean (hP : P.WithinArity) {e : Expr} (h : e.WellFormed) :
    ∀ m ∈ P.marks e, m.isRefusal = false := by
  induction h with
  | literal | path | className => simp [marks, Mark.isRefusal]
  | @apply op xs arity fits operands ih =>
    intro m hm
    simp only [marks, marksOfAll_eq_map, applicationMarks, List.length_map, arity, List.map_map,
      Function.comp_def, List.map_id', fits_iff.2 fits, ne_eq, not_true_eq_false, if_true,
      if_false, List.mem_flatMap] at hm
    obtain ⟨s, hs, hm⟩ := hm
    exact forall_mem_slotMarks hP (fun _ => rfl) arity ih s hs m hm

end Patterns

namespace Bindings

/-- The label of a value is bound to that value or to one that equals it. -/
theorem labelFor_spec (b : Bindings) (v : Value) (scheme : LabelScheme) (reserved : List String) :
    b.entries <+: (b.labelFor v scheme reserved).2.entries ∧
      ∃ w, ⟨(b.labelFor v scheme reserved).1, w⟩ ∈ (b.labelFor v scheme reserved).2.entries ∧
        (w = v ∨ (w == v) = true) := by
  unfold labelFor
  split
  · rename_i label h
    simp only [labelOf?, Option.map_eq_some_iff] at h
    obtain ⟨⟨label, w⟩, hfind, rfl⟩ := h
    have equal := List.find?_some hfind
    exact ⟨List.prefix_refl _, w, List.mem_of_find?_eq_some hfind, .inr equal⟩
  · exact ⟨List.prefix_append _ _, v, by simp [assign], .inl rfl⟩

end Bindings

/-- The step keeps the bindings that are there and puts others after them, also when it fails. -/
def Writer.Extends (w : Writer) : Prop := ∀ b, b.entries <+: (w b).bindings.entries

namespace Writer.Extends

theorem text (s : String) : (Writer.text s).Extends := fun _ => List.prefix_refl _

theorem andThen {u v : Writer} (hu : u.Extends) (hv : v.Extends) : (u.andThen v).Extends := by
  intro b
  have first := hu b
  rcases h : u b with ⟨s, c, _ | e⟩
  · rw [h] at first
    simpa only [Writer.andThen, h] using first.trans (hv c)
  · rw [h] at first
    simpa only [Writer.andThen, h] using first

end Writer.Extends

namespace Pass

variable (p : Pass)

/-- The bindings after a literal. -/
def bind (b : Bindings) (v : Value) : Bindings :=
  match v.isNull, p.scheme? with
  | false, some scheme => (b.labelFor v scheme p.reserved).2
  | _, _ => b

/-- The clause can write the mark. -/
def accepts : Mark → Bool
  | .refuse _ => false
  | .leaf (.literal v) => v.isNull || p.scheme?.isSome
  | _ => true

/-- The text stands for the piece in a clause with the given bindings. -/
def Stands (b : Bindings) : Piece Leaf → String → Prop
  | .fixed s, text => text = s
  | .atom (.path q), text => text = p.pathText q
  | .atom (.className name), text => text = name
  | .atom (.literal v), text => ∃ w, ⟨text, w⟩ ∈ b.entries ∧ (w = v ∨ (w == v) = true)

theorem accepts_of_scheme {scheme : LabelScheme} (h : p.scheme? = some scheme) {m : Mark}
    (hm : m.isRefusal = false) : p.accepts m = true := by
  match m with
  | .text _ | .leaf (.path _) | .leaf (.className _) => rfl
  | .leaf (.literal v) => simp [accepts, h]
  | .refuse _ => cases hm

theorem mark_error? (m : Mark) (b : Bindings) :
    (p.mark m b).error? = none ↔ p.accepts m = true := by
  match m with
  | .text _ | .leaf (.path _) | .leaf (.className _) => exact ⟨fun _ => rfl, fun _ => rfl⟩
  | .refuse _ => exact ⟨nofun, nofun⟩
  | .leaf (.literal v) =>
    simp only [mark, leaf, literal, accepts]
    cases v.isNull <;> cases p.scheme? <;> simp [Writer.text, Writer.fail]

theorem mark_bindings (m : Mark) (b : Bindings) :
    (p.mark m b).bindings = m.literal?.elim b (p.bind b) := by
  match m with
  | .text _ | .leaf (.path _) | .leaf (.className _) | .refuse _ => rfl
  | .leaf (.literal v) =>
    simp only [mark, leaf, literal, Mark.literal?, Mark.leaf?, Leaf.literal?, Option.bind_some,
      Option.elim_some, bind]
    cases v.isNull <;> cases p.scheme? <;> rfl

/-- Writing marks succeeds exactly if the clause accepts all of them. -/
theorem markAll_error? (ms : List Mark) (b : Bindings) :
    (p.markAll ms b).error? = none ↔ ∀ m ∈ ms, p.accepts m = true := by
  induction ms generalizing b with
  | nil => simp [Writer.text]
  | cons m ms ih =>
    rw [markAll_cons, List.forall_mem_cons, ← p.mark_error? m b]
    cases h : (p.mark m b).error? with
    | none => simp [Writer.andThen, h, ih]
    | some e => simp [Writer.andThen, h]

/-- The bindings after marks are those that the literals give, one after another. -/
theorem markAll_bindings {ms : List Mark} (h : ∀ m ∈ ms, p.accepts m = true) (b : Bindings) :
    (p.markAll ms b).bindings = (ms.filterMap Mark.literal?).foldl p.bind b := by
  induction ms generalizing b with
  | nil => rfl
  | cons m ms ih =>
    rw [List.forall_mem_cons] at h
    have hm := (p.mark_error? m b).2 h.1
    have : (p.markAll (m :: ms) b).bindings = (p.markAll ms (p.mark m b).bindings).bindings := by
      simp [markAll_cons, Writer.andThen, hm]
    rw [this, ih h.2, mark_bindings, List.filterMap_cons]
    cases m.literal? <;> rfl

/-- The text of marks that are accepted stands before that of the others. -/
theorem markAll_text_append {ms : List Mark} (h : ∀ m ∈ ms, p.accepts m = true) (ns : List Mark)
    (b : Bindings) : (p.markAll (ms ++ ns) b).text =
      (p.markAll ms b).text ++ (p.markAll ns (p.markAll ms b).bindings).text := by
  simp [markAll_append, Writer.andThen, (p.markAll_error? ms b).2 h]

/-- The bindings after marks that are accepted are those with which the others are written. -/
theorem markAll_bindings_append {ms : List Mark} (h : ∀ m ∈ ms, p.accepts m = true)
    (ns : List Mark) (b : Bindings) :
    (p.markAll (ms ++ ns) b).bindings = (p.markAll ns (p.markAll ms b).bindings).bindings := by
  simp [markAll_append, Writer.andThen, (p.markAll_error? ms b).2 h]

/-- Bindings are only added. -/
theorem bind_prefix (b : Bindings) (v : Value) : b.entries <+: (p.bind b v).entries := by
  unfold bind
  split
  · exact (b.labelFor_spec v _ _).1
  · exact List.prefix_refl _

theorem foldl_bind_prefix (vs : List Value) (b : Bindings) :
    b.entries <+: (vs.foldl p.bind b).entries := by
  induction vs generalizing b with
  | nil => exact List.prefix_refl _
  | cons v vs ih => exact (p.bind_prefix b v).trans (ih _)

theorem extends_mark (m : Mark) : (p.mark m).Extends := by
  intro b
  rw [mark_bindings]
  cases m.literal? with
  | none => exact List.prefix_refl _
  | some v => exact p.bind_prefix b v

theorem extends_markAll (ms : List Mark) : (p.markAll ms).Extends := by
  induction ms with
  | nil => exact .text ""
  | cons m ms ih => exact (p.extends_mark m).andThen ih

theorem stands_mono {b c : Bindings} (h : b.entries ⊆ c.entries) {piece : Piece Leaf}
    {text : String} (hs : p.Stands b piece text) : p.Stands c piece text := by
  match piece with
  | .fixed _ | .atom (.path _) | .atom (.className _) => exact hs
  | .atom (.literal v) =>
    obtain ⟨w, hw, heq⟩ := hs
    exact ⟨w, h hw, heq⟩

/-- Without labels nothing is bound. -/
theorem foldl_bind_of_none {p : Pass} (h : p.scheme? = none) (vs : List Value) (b : Bindings) :
    vs.foldl p.bind b = b := by
  induction vs with
  | nil => rfl
  | cons v vs ih =>
    have : p.bind b v = b := by
      simp only [bind, h]
      cases v.isNull <;> rfl
    rw [List.foldl_cons, this, ih]

/-- What stands for a piece depends on the candidate and the bindings alone. -/
theorem stands_congr {p p' : Pass} (h : p.candidate = p'.candidate) {b : Bindings}
    {piece : Piece Leaf} {text : String} (hs : p.Stands b piece text) : p'.Stands b piece text := by
  match piece with
  | .fixed _ | .atom (.className _) | .atom (.literal _) => exact hs
  | .atom (.path q) =>
    simp only [Stands, pathText, h] at hs ⊢
    exact hs

theorem mark_stands {m : Mark} (h : p.accepts m = true) (b : Bindings) :
    p.Stands (p.mark m b).bindings m.piece (p.mark m b).text := by
  match m with
  | .text _ | .leaf (.path _) | .leaf (.className _) => exact rfl
  | .leaf (.literal v) =>
    simp only [accepts, Bool.or_eq_true, Option.isSome_iff_exists] at h
    simp only [mark, leaf, literal, Mark.piece]
    cases hv : v.isNull with
    | true => exact rfl
    | false =>
      obtain ⟨scheme, hs⟩ := h.resolve_left (by simp [hv])
      rw [hs]
      exact (b.labelFor_spec v scheme p.reserved).2

/-- The text of marks is made of what stands for their pieces. -/
theorem markAll_spells {ms : List Mark} (h : ∀ m ∈ ms, p.accepts m = true) (b : Bindings) :
    ∃ texts, List.Forall₂ (p.Stands (p.markAll ms b).bindings) (ms.map Mark.piece) texts ∧
      (p.markAll ms b).text = String.join texts := by
  induction ms generalizing b with
  | nil => exact ⟨[], .nil, rfl⟩
  | cons m ms ih =>
    rw [List.forall_mem_cons] at h
    have hm := (p.mark_error? m b).2 h.1
    obtain ⟨texts, stand, text⟩ := ih h.2 (p.mark m b).bindings
    have grown : (p.mark m b).bindings.entries <+:
        (p.markAll ms (p.mark m b).bindings).bindings.entries := p.extends_markAll ms _
    refine ⟨(p.mark m b).text :: texts, ?_, ?_⟩
    · simp only [markAll_cons, Writer.andThen, hm]
      exact .cons (p.stands_mono grown.subset (p.mark_stands h.1 b)) stand
    · simp [markAll_cons, Writer.andThen, hm, text, String.join_cons]

end Pass

end StoreQuery
