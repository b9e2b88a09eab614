import StoreQuery.Proofs.Clause.Neighbours
import StoreQuery.Proofs.Clause.RoundTrip

/-!
# Borders in a text

With the templates by default, and names for leaves and labels, the text of an expression is read
piece by piece as it was written: no token spans a border between two marks. There is one exception,
a minus in front of a minus, which is read as another operator.

* `Mark.WrittenAs` : a text begins and ends as a mark says, whatever name stands at it;
* `Pass.parts_markAll` : no token spans the border of two marks that are apart;
* `Pass.keepsBorders_iff` : **no token spans a border exactly if no negation is negated.**
-/

namespace StoreQuery

/-! ### Texts -/

namespace Lexer

/-- The text begins and ends like a name. -/
def LikeName (s : String) : Prop :=
  s.toList.head?.map kind = some 'a' ∧ s.toList.getLast?.map kind = some 'a'

theorem IsName.likeName {s : String} (h : IsName s) : LikeName s := by
  have hs : s.toList ≠ [] := by simpa using h.1
  have kind_eq {c : Char} (hc : c ∈ s.toList) : kind c = 'a' :=
    if_pos (List.all_eq_true.1 h.2 c hc)
  constructor
  · rw [List.head?_eq_some_head hs, Option.map_some, kind_eq (List.head_mem hs)]
  · rw [List.getLast?_eq_some_getLast hs, Option.map_some, kind_eq (List.getLast_mem hs)]

theorem LikeName.toList_ne_nil {s : String} (h : LikeName s) : s.toList ≠ [] := by
  intro hs
  rw [LikeName, hs] at h
  cases h.1

theorem LikeName.append {s t : String} (hs : LikeName s) (ht : LikeName t) (between : String) :
    LikeName (s ++ between ++ t) := by
  rw [LikeName, String.toList_append, List.getLast?_append_of_ne_nil _ ht.toList_ne_nil,
    String.toList_append, List.append_assoc, List.head?_append_of_ne_nil _ hs.toList_ne_nil]
  exact ⟨hs.1, ht.2⟩

theorem likeName_intercalate {names : List String} (hne : names ≠ [])
    (h : ∀ name ∈ names, IsName name) (separator : String) :
    LikeName (separator.intercalate names) := by
  induction names with
  | nil => exact absurd rfl hne
  | cons name names ih =>
    rw [List.forall_mem_cons] at h
    cases names with
    | nil =>
      rw [String.intercalate_singleton]
      exact h.1.likeName
    | cons next names =>
      rw [String.intercalate_cons_cons]
      exact h.1.likeName.append (ih (List.cons_ne_nil _ _) h.2) separator

end Lexer

/-- The names at a leaf are names. -/
def Leaf.Named : Leaf → Prop
  | .path q => ∀ name ∈ q.root :: q.segments, Lexer.IsName name
  | .className name => Lexer.IsName name
  | .literal _ => True

instance : DecidablePred Leaf.Named
  | .path q => inferInstanceAs (Decidable (∀ name ∈ q.root :: q.segments, Lexer.IsName name))
  | .className name => inferInstanceAs (Decidable (Lexer.IsName name))
  | .literal _ => inferInstanceAs (Decidable True)

/-- The text begins and ends as the mark says. -/
structure Mark.WrittenAs (m : Mark) (t : String) : Prop where
  /-- It begins so. -/
  first : t.toList.head?.map Lexer.kind = m.first?
  /-- It ends so. -/
  last : t.toList.getLast?.map Lexer.kind = m.last?

theorem Mark.WrittenAs.toList_ne_nil {m : Mark} {t : String} (h : m.WrittenAs t)
    (solid : m.first? ≠ none) : t.toList ≠ [] := by
  intro ht
  have := h.first
  rw [ht] at this
  exact solid this.symm

theorem Mark.writtenAs_leaf {l : Leaf} {t : String} (h : Lexer.LikeName t) :
    (Mark.leaf l).WrittenAs t := ⟨h.1, h.2⟩

namespace Pass

variable (p : Pass)

theorem likeName_pathText {q : Path} (h : (Leaf.path q).Named) : Lexer.LikeName (p.pathText q) := by
  unfold pathText
  split
  · exact Lexer.likeName_intercalate (List.cons_ne_nil _ _) h "."
  split
  · exact ⟨by decide, by decide⟩
  · rename_i hroot
    have segments : ∀ name ∈ q.segments, Lexer.IsName name :=
      fun name hname => h name (List.mem_cons_of_mem _ hname)
    exact Lexer.likeName_intercalate (by simpa [Path.isRoot] using hroot) segments "."

/-- A mark is written as it says if names and labels are names. -/
theorem writtenAs_mark {m : Mark} (haccepts : p.accepts m = true)
    (named : ∀ l, m = .leaf l → l.Named) {b : Bindings}
    (labels : ∀ label ∈ (p.mark m b).bindings.labels, Lexer.IsName label) :
    m.WrittenAs (p.mark m b).text := by
  match m with
  | .text s => exact ⟨rfl, rfl⟩
  | .leaf (.path q) => exact Mark.writtenAs_leaf (p.likeName_pathText (named _ rfl))
  | .leaf (.className name) => exact Mark.writtenAs_leaf (Lexer.IsName.likeName (named _ rfl))
  | .leaf (.literal v) =>
    refine Mark.writtenAs_leaf ?_
    have stands := p.mark_stands haccepts b
    cases hv : v.isNull with
    | true =>
      simp only [Mark.piece, hv, if_true] at stands
      rw [show (p.mark (.leaf (.literal v)) b).text = "null" from stands]
      exact ⟨by decide, by decide⟩
    | false =>
      simp only [Mark.piece, hv, Bool.false_eq_true, if_false] at stands
      obtain ⟨w, hw, -⟩ := stands
      exact (labels _ (List.mem_map_of_mem hw)).likeName

theorem labels_subset_markAll (ms : List Mark) (b : Bindings) :
    b.labels ⊆ (p.markAll ms b).bindings.labels :=
  ((p.extends_markAll ms b).map _).subset

/-- Between others a mark is written as it says, too. -/
theorem writtenAs_between {ms ns : List Mark} {m : Mark}
    (haccepts : ∀ n ∈ ms ++ m :: ns, p.accepts n = true)
    (named : ∀ l, .leaf l ∈ ms ++ m :: ns → l.Named) {b : Bindings}
    (labels : ∀ label ∈ (p.markAll (ms ++ m :: ns) b).bindings.labels, Lexer.IsName label) :
    m.WrittenAs (p.mark m (p.markAll ms b).bindings).text := by
  rw [List.forall_mem_append, List.forall_mem_cons] at haccepts
  obtain ⟨hms, hm, -⟩ := haccepts
  have hm' : ∀ n ∈ [m], p.accepts n = true := by simpa using hm
  refine p.writtenAs_mark hm (fun l hl => named l (by simp [hl])) ?_
  intro label hlabel
  refine labels label ?_
  rw [← List.singleton_append, p.markAll_bindings_append hms, p.markAll_bindings_append hm',
    markAll_singleton]
  exact p.labels_subset_markAll ns _ hlabel

/-- No token spans the border of two marks that are apart. -/
theorem parts_markAll {ms ns : List Mark} (haccepts : ∀ m ∈ ms ++ ns, p.accepts m = true)
    (solid : ∀ m ∈ ms ++ ns, m.first? ≠ none) (named : ∀ l, .leaf l ∈ ms ++ ns → l.Named)
    {b : Bindings}
    (labels : ∀ label ∈ (p.markAll (ms ++ ns) b).bindings.labels, Lexer.IsName label)
    (apart : ∀ m ∈ ms.getLast?, ∀ n ∈ ns.head?, m.Apart n) :
    Lexer.Parts (p.markAll (ms ++ ns) b).text.toList (p.markAll ms b).text.toList := by
  have hms : ∀ m ∈ ms, p.accepts m = true := fun m hm => haccepts m (List.mem_append_left _ hm)
  rw [p.markAll_text_append hms, String.toList_append]
  refine Lexer.parts_append fun c hc d hd => ?_
  obtain rfl | ⟨ms, m, rfl⟩ := List.eq_nil_or_concat' ms
  · cases hc
  obtain _ | ⟨n, ns⟩ := ns
  · cases hd
  have hn := p.writtenAs_between haccepts named labels
  have hm : m.WrittenAs (p.mark m (p.markAll ms b).bindings).text := by
    rw [List.append_assoc, List.singleton_append] at haccepts named labels
    exact p.writtenAs_between haccepts named labels
  have hm_ne := hm.toList_ne_nil (solid m (by simp))
  have hn_ne := hn.toList_ne_nil (solid n (by simp))
  have hms' : ∀ x ∈ ms, p.accepts x = true := fun x hx => hms x (List.mem_append_left _ hx)
  have hn' : ∀ x ∈ [n], p.accepts x = true := by simpa using haccepts n (by simp)
  -- The last character is one of the last mark, and the first one is one of the first mark.
  rw [p.markAll_text_append hms', markAll_singleton, String.toList_append,
    List.getLast?_append_of_ne_nil _ hm_ne] at hc
  rw [← List.singleton_append, p.markAll_text_append hn', markAll_singleton, String.toList_append,
    List.head?_append_of_ne_nil _ hn_ne] at hd
  rw [← Lexer.fuses_kind]
  refine apart m (by simp) n rfl _ ?_ _ ?_
  · rw [← hm.last]
    exact Option.mem_map_of_mem _ hc
  · rw [← hn.first]
    exact Option.mem_map_of_mem _ hd

/-- No token of the text of an expression spans a border between its marks. -/
def KeepsBorders (e : Expr) (b : Bindings) : Prop :=
  ∀ ms ns, p.patterns.marks e = ms ++ ns →
    Lexer.Parts (p.write e b).text.toList (p.markAll ms b).text.toList

/-- A minus in front of a minus is read as one token. -/
theorem not_keepsBorders {e : Expr} (haccepts : ∀ m ∈ p.patterns.marks e, p.accepts m = true)
    (h : [.text "-", .text "-"] <:+: p.patterns.marks e) (b : Bindings) : ¬ p.KeepsBorders e b := by
  intro keeps
  obtain ⟨ms, ns, hm⟩ := h
  -- There is a border before the two and one between them, and a token spans one of the two.
  have before := keeps ms ([.text "-", .text "-"] ++ ns) (by simp [← hm])
  have between := keeps (ms ++ [.text "-"]) ([.text "-"] ++ ns) (by simp [← hm])
  rw [← hm] at haccepts
  have hms : ∀ m ∈ ms, p.accepts m = true := fun m hx => haccepts m (by simp [hx])
  have minuses : ∀ m ∈ [Mark.text "-", .text "-"], p.accepts m = true := by simp [accepts]
  have first : (p.markAll (ms ++ [.text "-"]) b).text.toList =
      (p.markAll ms b).text.toList ++ ['-'] := by
    rw [p.markAll_text_append hms, markAll_singleton, String.toList_append]
    simp [mark, Writer.text]
  obtain ⟨rest, whole⟩ : ∃ rest, (p.write e b).text.toList =
      (p.markAll ms b).text.toList ++ '-' :: '-' :: rest := by
    refine ⟨(p.markAll ns (p.markAll ms b).bindings).text.toList, ?_⟩
    rw [write_eq_marks, ← hm, List.append_assoc, p.markAll_text_append hms,
      p.markAll_text_append minuses, String.toList_append, String.toList_append]
    simp [markAll_cons, mark, Writer.andThen, Writer.text]
  rw [whole] at before between
  rw [first] at between
  exact Lexer.not_parts_double (by decide) before between

/-- **No token spans a border exactly if no negation is negated.** An expression is written with the
templates by default, and what it refers to and its labels are names. Then its text is read piece by
piece, as it was written, unless a minus comes to stand in front of a minus. -/
theorem keepsBorders_iff {p : Pass} (hp : p.patterns = .default) {e : Expr} (h : e.WellFormed)
    (hnull : p.scheme? = none → ∀ v ∈ e.literals, v.isNull = true)
    (named : ∀ l ∈ p.patterns.leaves e, l.Named) {b : Bindings}
    (labels : ∀ label ∈ (p.write e b).bindings.labels, Lexer.IsName label) :
    (p.write e b).error? = none ∧ (p.KeepsBorders e b ↔ ¬ e.NegatesNegation) := by
  have haccepts : ∀ m ∈ p.patterns.marks e, p.accepts m = true :=
    (p.forall_accepts_iff (hp ▸ Patterns.withinArity_default)
      (hp ▸ Patterns.asksForAll_default)).2 ⟨h, hnull⟩
  have clean : ∀ m ∈ p.patterns.marks e, m.isRefusal = false :=
    hp ▸ Patterns.marks_clean Patterns.withinArity_default h
  have hleaves : ∀ l, .leaf l ∈ p.patterns.marks e → l.Named := by
    intro l hl
    refine named l ?_
    rw [← p.patterns.filterMap_marks clean]
    exact List.mem_filterMap.2 ⟨_, hl, rfl⟩
  refine ⟨?_, ?_, ?_⟩
  · rw [write_eq_marks]
    exact (p.markAll_error? _ b).2 haccepts
  · intro keeps hneg
    exact p.not_keepsBorders haccepts (hp ▸ Patterns.double_minus h hneg) b keeps
  · intro hneg ms ns hsplit
    -- Marks that are apart stay so where the list is divided.
    have chain := Patterns.isChain_marks h hneg
    have solid := Patterns.marks_solid h
    rw [write_eq_marks] at labels ⊢
    rw [← hp, hsplit] at chain solid
    rw [hsplit] at haccepts hleaves labels ⊢
    exact p.parts_markAll haccepts solid hleaves labels (List.isChain_append.1 chain).2.2

end Pass

namespace Expr

/-- The negation of a number. -/
def neg (x : Expr) : Expr := .apply .neg [x]

/-- Negations as operands of all sorts. -/
def negations : Expr :=
  (((ofPerson "x").sub (neg (ofPerson "y"))).mul
    (neg ((neg (ofPerson "z")).add (.literal (.int 1))))).ne (.apply .length [neg (ofPerson "w")])

theorem wellFormed_negations : negations.WellFormed := by
  simp [negations, ofPerson, sub, neg, mul, add, ne, wellFormed_apply_iff, Operator.arity,
    WellFormed.path, WellFormed.literal]

end Expr

namespace Pass

theorem keepsBorders_negations :
    (ofPersons.write .negations .empty).text = "(x - -y) * -(-z + a) != (-w).length()" ∧
      ofPersons.KeepsBorders .negations .empty := by
  have hneg : ¬ Expr.negations.NegatesNegation := by
    simp [Expr.negations, Expr.ofPerson, Expr.sub, Expr.neg, Expr.mul, Expr.add, Expr.ne,
      Expr.negatesNegation_apply_iff]
  have named : ∀ l ∈ ofPersons.patterns.leaves .negations, l.Named := by decide
  have labels : ∀ label ∈ (ofPersons.write .negations .empty).bindings.labels,
      Lexer.IsName label := by
    decide +kernel
  obtain ⟨-, kept⟩ :=
    keepsBorders_iff rfl Expr.wellFormed_negations (by simp [ofPersons]) named labels
  exact ⟨by decide +kernel, kept.2 hneg⟩

/-- A negation of a negation is read as another operator. -/
theorem double_minus_fused :
    let e := Expr.neg (.neg (.ofPerson "x"))
    e.WellFormed ∧ (ofPersons.write e .empty).text = "--x" ∧
      ofPersons.patterns.marks e =
        [.text "-"] ++ [.text "-", .leaf (.path ⟨"person", ["x"]⟩)] ∧
      Lexer.tokens "--x".toList = [['-', '-'], ['x']] ∧
      ¬ Lexer.Parts "--x".toList (ofPersons.markAll [.text "-"] .empty).text.toList := by
  refine ⟨?_, by decide +kernel, rfl, by decide +kernel, ?_⟩
  · simp [Expr.neg, Expr.ofPerson, Expr.wellFormed_apply_iff, Operator.arity, Expr.WellFormed.path]
  · have start : Lexer.Parts ([] ++ ['-', '-', 'x']) [] := ⟨[], _, rfl, rfl⟩
    exact Lexer.not_parts_double (by decide) start

end Pass

end StoreQuery
