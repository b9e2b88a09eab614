import StoreQuery.Proofs.Clause.Chains
import StoreQuery.Proofs.Clause.Machine
import StoreQuery.Proofs.Clause.Spelling

/-!
# What a reader makes of an expression

The text of an expression is a list of pieces: what the templates say is fixed, and the leaves are
atoms. With the default templates, the reader takes the text of a well-formed expression, in any
place where the expression needs no parentheses, and is left with the tree of its chain.

* `Expr.readable` : **the tokens of a well-formed expression leave the tree of its chain**, in
  every place that is ready for it;
* `Expr.read_pieces` : as a whole text, it is read as `Expr.regrouped`.
-/

namespace StoreQuery

namespace Expr

open Reader

/-- The tokens of an expression. -/
def tokens (e : Expr) : List (Token Leaf) := Reader.tokens (Patterns.default.pieces e)

/-- The tokens of an operand at a placeholder. -/
def operandTokens (op : Operator) (index : Nat) (enclosed : Bool) (x : Expr) :
    List (Token Leaf) :=
  if !enclosed && Pass.needsParens op index x then .sign "(" :: (x.tokens ++ [.sign ")"])
  else x.tokens

/-- The tokens of a piece of a template. -/
def slotTokens (op : Operator) (xs : List Expr) : Segment × Bool → List (Token Leaf)
  | (.text s, _) => scan [] s.toList
  | (.operand index, enclosed) => (xs[index]?.map (operandTokens op index enclosed)).getD []

theorem tokens_flatMap (f : α → List Mark) (xs : List α) :
    Reader.tokens ((xs.flatMap f).map Mark.piece) =
      xs.flatMap fun x => Reader.tokens ((f x).map Mark.piece) := by
  simp [Reader.tokens, List.map_flatMap, List.flatMap_assoc]

theorem tokens_slotMarks (op : Operator) (xs : List Expr) (s : Segment × Bool) :
    Reader.tokens ((Patterns.slotMarks op (xs.map fun x => (x, Patterns.default.marks x)) s).map
      Mark.piece) = slotTokens op xs s := by
  obtain ⟨s | index, enclosed⟩ := s
  · simp [Patterns.slotMarks, slotTokens, Reader.tokens, Mark.piece, pieceTokens]
  · simp only [Patterns.slotMarks, slotTokens, List.getElem?_map]
    cases xs[index]? with
    | none => rfl
    | some x =>
      simp only [Option.map_some, Option.getD_some, Patterns.operandMarks, operandTokens]
      split
      · simp [Reader.tokens, Mark.piece, pieceTokens, tokens, Patterns.pieces]
        rfl
      · rfl

/-- The tokens of an application follow the template. -/
theorem tokens_apply {op : Operator} {xs : List Expr} (h : (Expr.apply op xs).WellFormed) :
    (Expr.apply op xs).tokens = op.template.slots.flatMap (slotTokens op xs) := by
  obtain ⟨arity, fits, -⟩ := wellFormed_apply_iff.1 h
  have hfits := Patterns.fits_iff.2 fits
  have marks : Patterns.default.marks (.apply op xs) = op.template.slots.flatMap
      (Patterns.slotMarks op (xs.map fun x => (x, Patterns.default.marks x))) := by
    simp [Patterns.marks, Patterns.applicationMarks, arity, Function.comp_def, hfits,
      Patterns.default]
  simp only [tokens, Patterns.pieces, marks, tokens_flatMap, tokens_slotMarks]

end Expr

/-! ### How operators are written -/

namespace Operator

open Reader

theorem slots_of_isInfix {op : Operator} (h : op.isInfix = true) : ∃ s sign,
    op.template.slots = [(.operand 0, false), (.text s, false), (.operand 1, false)] ∧
      scan (α := Leaf) [] s.toList = [.sign sign] ∧ binary? sign = some op := by
  cases op <;> first | exact ⟨_, _, rfl, rfl, rfl⟩ | cases h

theorem level_of_isInfix {op : Operator} (h : op.isInfix = true) :
    level op = levelFor op.strength ∧ level op < 7 ∧ op.operandStrength = op.strength ∧
      op.strength < Strength.call := by
  cases op <;> first | decide | cases h

end Operator

/-! ### Reading expressions -/

/-- How tightly the text of an expression holds together. -/
def Expr.strength : Expr → Strength
  | .apply op _ => op.strength
  | _ => .call

theorem Expr.strength_ne_three (e : Expr) : e.strength ≠ 3 := by
  cases e with
  | apply op xs => show op.strength ≠ 3; cases op <;> decide
  | _ => show Strength.call ≠ 3; decide

/-- What waits before an expression that is part of a longer chain: nothing, or an operator with
its left operand. -/
abbrev Pending := Option (Operator × Tree Leaf)

namespace Pending

/-- The operator waits above the frames. -/
def frames : Pending → List (Reader.Frame Leaf) → List (Reader.Frame Leaf)
  | none, fs => fs
  | some (op, left), fs => .waiting op [left] :: fs

/-- The operator takes its last operand. -/
def close : Pending → Tree Leaf → Tree Leaf
  | none, t => t
  | some (op, left), t => .node op [left, t]

end Pending

/-- The chain after what waits before it, grouped to the left. -/
def Chain.complete (c : Chain) : Pending → Tree Leaf
  | none => c.tree
  | some (op, left) => c.after op left

namespace Expr

open Reader

/-- What waits may take the first link of the expression alone. -/
def Continues (e : Expr) (p : Pending) : Prop :=
  ∀ op left, p = some (op, left) → op.isAssociative = true ∧ e.isAsTight op = true

/-- The tokens of the expression leave the tree of its chain in every place that is ready. -/
def Readable (e : Expr) : Prop :=
  ∀ p fs, e.Continues p → Ready (levelFor e.strength) fs →
    Reads e.tokens (p.frames fs) (levelFor e.strength) fs (e.chain.complete p)

theorem Readable.alone {e : Expr} (h : e.Readable) {fs : List (Reader.Frame Leaf)}
    (ready : Ready (levelFor e.strength) fs) :
    Reads e.tokens fs (levelFor e.strength) fs e.regrouped := by
  have nothing : e.Continues none := by
    rintro _ _ ⟨⟩
  exact h none fs nothing ready

theorem complete_of_isInfix {op : Operator} (h : op.isInfix = true) (x y : Expr) (p : Pending) :
    (Expr.apply op [x, y]).chain.complete p =
      readRight op (if x.isAsTight op then x.chain.complete p else p.close x.regrouped) y := by
  match p with
  | none =>
    -- Where nothing waits, both ways to take the left operand agree.
    have : (if x.isAsTight op then x.chain.complete none else Pending.close none x.regrouped) =
        x.regrouped := ite_self _
    rw [this]
    exact regrouped_of_isInfix h x y
  | some (f, left) => exact after_of_isInfix h x y f left

/-! Operands -/

theorem operandStrength_le {op : Operator} {index : Nat} {x : Expr}
    (h : Pass.needsParens op index x = false) : op.operandStrength ≤ x.strength := by
  have le_call : op.operandStrength ≤ Strength.call := by cases op <;> decide
  cases x with
  | apply f xs =>
    simp only [Pass.needsParens, Operator.wraps] at h
    split at h
    · rename_i hf
      exact Nat.le_of_eq hf.symm
    · simpa [strength] using h
  | _ => exact le_call

theorem operandStrength_lt {op : Operator} {index : Nat} {x : Expr} (hindex : index ≠ 0)
    (hop : op.operandStrength < Strength.call) (h : Pass.needsParens op index x = false) :
    op.operandStrength < x.strength ∨ (op.isAssociative = true ∧ x.isApplication op = true) := by
  cases x with
  | apply f xs =>
    simp only [Pass.needsParens, Operator.wraps] at h
    split at h
    · right
      simpa [hindex, isApplication, and_comm] using h
    · rename_i hf
      left
      have : op.operandStrength ≤ f.strength := by simpa using h
      exact Nat.lt_of_le_of_ne this (Ne.symm hf)
  | _ => exact .inl hop

/-- An operand is read alone, with parentheses or without. -/
theorem Readable.operand {x : Expr} (hx : x.Readable) {op : Operator} {index n : Nat}
    {fs : List (Reader.Frame Leaf)} (h : Pass.needsParens op index x = false →
      Ready (levelFor x.strength) fs ∧ n ≤ levelFor x.strength) :
    Reads (operandTokens op index false x) fs n fs x.regrouped := by
  unfold operandTokens
  cases hw : Pass.needsParens op index x with
  | false =>
    obtain ⟨ready, hn⟩ := h hw
    exact (hx.alone ready).mono hn
  | true =>
    -- Within parentheses nothing waits, and what is read is settled by the closing one.
    have group : Reads x.tokens (.group :: fs) (levelFor x.strength) (.group :: fs)
        x.regrouped := by
      refine hx.alone ?_
      rintro _ _ ⟨⟩
    exact .of_run group.run_group

/-- An operand in a call is read alone. -/
theorem Readable.argument {x : Expr} (hx : x.Readable) (op f : Operator) (index : Nat)
    (receiver operands : List (Tree Leaf)) (fs : List (Reader.Frame Leaf)) :
    Reads (operandTokens op index true x) (.call f receiver operands :: fs)
      (levelFor x.strength) (.call f receiver operands :: fs) x.regrouped := by
  refine hx.alone ?_
  rintro _ _ ⟨⟩

/-- An operand is read alone in a place that is ready for what the operator asks of it. -/
theorem Readable.placed {x : Expr} (hx : x.Readable) {op : Operator} {n : Nat}
    (hop : levelFor op.operandStrength = n) (index : Nat) {fs : List (Reader.Frame Leaf)}
    (ready : Ready n fs) : Reads (operandTokens op index false x) fs n fs x.regrouped := by
  refine hx.operand ?_
  intro hw
  have := levelFor_mono (operandStrength_le hw)
  rw [hop] at this
  exact ⟨ready.mono this, this⟩

/-- An operand that must be as tight as a call is read to the end. -/
theorem Readable.receiver {x : Expr} (hx : x.Readable) {op : Operator}
    (hop : op.operandStrength = Strength.call) (index : Nat) (fs : List (Reader.Frame Leaf)) :
    run ⟨fs, none⟩ (operandTokens op index false x) = some ⟨fs, some x.regrouped⟩ := by
  have ready : Ready (levelFor Strength.call) fs := by
    intro _ _ _
    exact .inr (by decide)
  exact (hx.placed (by rw [hop]) index ready).run_eq

/-! Signs between operands -/

theorem strength_of_isAsTight {op : Operator} {e : Expr} (h : e.isAsTight op = true) :
    e.strength = op.strength := by
  cases e with
  | apply f xs => exact of_decide_eq_true h
  | _ => cases h

theorem strength_ne_of_not_isAsTight {op : Operator} {e : Expr} (hop : op.strength < Strength.call)
    (h : e.isAsTight op = false) : op.strength ≠ e.strength := by
  cases e with
  | apply f xs =>
    have : f.strength ≠ op.strength := by simpa [isAsTight] using h
    exact this.symm
  | _ => exact Nat.ne_of_lt hop

theorem level_of_continues {e : Expr} {p : Pending} (hp : e.Continues p) {op : Operator}
    {left : Tree Leaf} (h : p = some (op, left)) : level op = levelFor e.strength := by
  obtain ⟨hop, tight⟩ := hp op left h
  rw [(op.level_of_isInfix (Operator.isInfix_of_isAssociative hop)).1, strength_of_isAsTight tight]

theorem settle_frames {e : Expr} {p : Pending} (hp : e.Continues p) (fs : List (Reader.Frame Leaf))
    (t : Tree Leaf) : settle (levelFor e.strength) (p.frames fs) t =
      settle (levelFor e.strength) fs (p.close t) := by
  match p with
  | none => rfl
  | some (op, left) =>
    rw [Pending.frames, settle, if_pos (Nat.le_of_eq (level_of_continues hp rfl).symm)]
    rfl

theorem ready_frames {e : Expr} {p : Pending} (hp : e.Continues p) {n : Nat}
    (hn : levelFor e.strength < n) {fs : List (Reader.Frame Leaf)}
    (ready : Ready (levelFor e.strength) fs) : Ready n (p.frames fs) := by
  match p with
  | none => exact ready.mono (Nat.le_of_lt hn)
  | some (op, left) =>
    exact ready_waiting (.inl (level_of_continues hp rfl ▸ hn)) _ _

section Infix

variable {f : Operator} {x y : Expr} (hf : f.isInfix = true)
include hf

theorem Readable.left (hx : x.Readable) {p : Pending} {fs : List (Reader.Frame Leaf)}
    (hp : (Expr.apply f [x, y]).Continues p) (ready : Ready (levelFor f.strength) fs) :
    Reads (operandTokens f 0 false x) (p.frames fs) (levelFor f.strength) fs
      (if x.isAsTight f then x.chain.complete p else p.close x.regrouped) := by
  obtain ⟨-, -, hoperand, hcall⟩ := f.level_of_isInfix hf
  cases htight : x.isAsTight f with
  | true =>
    -- The operand has no parentheses, and its first link takes what waits before it.
    have strength := strength_of_isAsTight htight
    have bare : operandTokens f 0 false x = x.tokens := by
      cases x with
      | apply g xs =>
        have : g.strength = f.operandStrength := hoperand ▸ strength
        simp [operandTokens, Pass.needsParens, Operator.wraps, this]
      | _ => rfl
    have continues : x.Continues p := by
      intro op left h
      obtain ⟨hop, tight⟩ := hp op left h
      rw [← isAsTight_congr (strength_of_isAsTight tight : f.strength = op.strength)]
      exact ⟨hop, htight⟩
    have := hx p fs continues (strength ▸ ready)
    rw [strength] at this
    rwa [bare]
  | false =>
    -- The operand is read alone, and what waits takes it when the sign settles.
    have above (h : Pass.needsParens f 0 x = false) : levelFor f.strength < levelFor x.strength :=
      levelFor_lt (Nat.lt_of_le_of_ne (hoperand ▸ operandStrength_le h)
        (strength_ne_of_not_isAsTight hcall htight)) x.strength_ne_three
    have := hx.operand (n := levelFor f.strength) fun h =>
      ⟨ready_frames hp (above h) ready, Nat.le_of_lt (above h)⟩
    exact this.congr (settle_frames hp fs _)

theorem Readable.right (hy : y.Readable) {fs : List (Reader.Frame Leaf)}
    (ready : Ready (levelFor f.strength) fs) (t : Tree Leaf) :
    Reads (operandTokens f 1 false y) (.waiting f [t] :: fs) (levelFor f.strength) fs
      (readRight f t y) := by
  obtain ⟨hlevel, -, hoperand, hcall⟩ := f.level_of_isInfix hf
  unfold readRight
  split
  · rename_i h
    rw [Bool.and_eq_true] at h
    -- Without parentheses the chain of the operand goes on where the one before it ended.
    obtain ⟨hassoc, happ⟩ := h
    have tight := isAsTight_of_isApplication happ
    have strength := strength_of_isAsTight tight
    have bare : operandTokens f 1 false y = y.tokens := by
      cases y with
      | apply g ys =>
        have : g = f := of_decide_eq_true happ
        simp [operandTokens, Pass.needsParens, Operator.wraps, this, hoperand, hassoc]
      | _ => rfl
    have continues : y.Continues (some (f, t)) := by
      rintro _ _ ⟨⟩
      exact ⟨hassoc, tight⟩
    have := hy (some (f, t)) fs continues (strength ▸ ready)
    rw [strength] at this
    rwa [bare]
  · rename_i h
    rw [Bool.and_eq_true] at h
    have above (hw : Pass.needsParens f 1 y = false) :
        levelFor f.strength < levelFor y.strength := by
      refine levelFor_lt ?_ y.strength_ne_three
      have := operandStrength_lt (by decide) (hoperand ▸ hcall) hw
      exact hoperand ▸ this.resolve_right h
    have operand : Reads (operandTokens f 1 false y) (.waiting f [t] :: fs) (levelFor f.strength)
        (.waiting f [t] :: fs) y.regrouped := hy.operand fun hw =>
      ⟨ready_waiting (.inl (hlevel ▸ above hw)) _ _, Nat.le_of_lt (above hw)⟩
    refine operand.congr ?_
    rw [settle, if_pos (Nat.le_of_eq hlevel.symm)]
    rfl

theorem readable_of_isInfix (h : (Expr.apply f [x, y]).WellFormed) (hx : x.Readable)
    (hy : y.Readable) :
    (Expr.apply f [x, y]).Readable := by
  intro p fs hp ready
  obtain ⟨s, sign, hslots, hscan, hsign⟩ := f.slots_of_isInfix hf
  obtain ⟨hlevel, hseven, -, -⟩ := f.level_of_isInfix hf
  have tokens : (Expr.apply f [x, y]).tokens =
      (operandTokens f 0 false x ++ [.sign sign]) ++ operandTokens f 1 false y := by
    rw [tokens_apply h, hslots]
    simp [slotTokens, hscan]
  rw [tokens, complete_of_isInfix hf]
  have left := (hx.left hf hp ready).run_sign hsign hseven (Nat.le_of_eq hlevel) (hlevel ▸ ready)
  exact .after left (hy.right hf ready _)

end Infix

/-! Other operators -/

section Alone

variable {op : Operator} {x y z : Expr}

theorem readable_of_reads {xs : List Expr} (hop : op.isInfix = false) (hne : op ≠ .between)
    (h : ∀ fs, Ready (levelFor op.strength) fs →
      Reads (Expr.apply op xs).tokens fs (levelFor op.strength) fs (op.expand (xs.map regrouped))) :
    (Expr.apply op xs).Readable := by
  intro p fs hp ready
  match p with
  | none =>
    have := h fs ready
    rwa [← regrouped_of_not_isInfix hop] at this
  | some (g, left) =>
    obtain ⟨hassoc, tight⟩ := hp g left rfl
    exact absurd (Operator.of_not_isInfix hassoc (strength_of_isAsTight tight) hop).2 hne

/-- An operator in front of its operand. -/
theorem reads_front {s sign : String} (h : (Expr.apply op [x]).WellFormed) (hx : x.Readable)
    (hslots : op.template.slots = [(.text s, false), (.operand 0, false)])
    (hscan : scan (α := Leaf) [] s.toList = [.sign sign]) (hsign : unary? sign = some op)
    (hop : op.operandStrength = Strength.unary) (hlevel : level op = 7)
    (fs : List (Reader.Frame Leaf)) :
    Reads (Expr.apply op [x]).tokens fs 7 fs (.node op [x.regrouped]) := by
  have tokens : (Expr.apply op [x]).tokens = [.sign sign] ++ operandTokens op 0 false x := by
    rw [tokens_apply h, hslots]
    simp [slotTokens, hscan]
  have front : run ⟨fs, none⟩ [.sign sign] = some ⟨.waiting op [] :: fs, none⟩ := by
    simp [run, step, signBefore, hsign]
  have hn : levelFor op.operandStrength = 7 := by
    rw [hop]
    rfl
  have ready : Ready 7 (.waiting op [] :: fs) := ready_waiting (.inr (Nat.le_refl 7)) [] fs
  have operand := hx.placed hn 0 ready
  rw [tokens]
  refine .after front (operand.congr ?_)
  rw [settle, if_pos (Nat.le_of_eq hlevel.symm)]
  rfl

/-- A method without operands. -/
theorem run_method₀ {name : String} (hname : method? name = some op)
    (fs : List (Reader.Frame Leaf)) (t : Tree Leaf) :
    run ⟨fs, some t⟩ [.call name, .sign ")"] = some ⟨fs, some (.node op [t])⟩ := by
  rw [run_cons]
  simp only [step, hname, Option.map_some, Option.bind_some]
  rfl

/-- A method with one operand. -/
theorem run_method₁ {name : String} (hname : method? name = some op) (hy : y.Readable)
    (f : Operator) (index : Nat) (fs : List (Reader.Frame Leaf)) (t : Tree Leaf) :
    run ⟨fs, some t⟩ (.call name :: (operandTokens f index true y ++ [.sign ")"])) =
      some ⟨fs, some (.node op [t, y.regrouped])⟩ := by
  rw [run_cons]
  simp only [step, hname, Option.map_some, Option.bind_some]
  exact (hy.argument f op index [t] [] fs).run_close

/-- A method with two operands. -/
theorem run_method₂ {name : String} (hname : method? name = some op) (hy : y.Readable)
    (hz : z.Readable) (f : Operator) (i j : Nat) (fs : List (Reader.Frame Leaf)) (t : Tree Leaf) :
    run ⟨fs, some t⟩ (.call name :: (operandTokens f i true y ++ [.sign ","]) ++
      (operandTokens f j true z ++ [.sign ")"])) =
      some ⟨fs, some (.node op [t, y.regrouped, z.regrouped])⟩ := by
  rw [List.cons_append, run_cons]
  simp only [step, hname, Option.map_some, Option.bind_some]
  rw [run_append, (hy.argument f op i [t] [] fs).run_comma]
  exact (hz.argument f op j [t] [y.regrouped] fs).run_close

theorem reads_method₀ {s name : String} (h : (Expr.apply op [x]).WellFormed) (hx : x.Readable)
    (hslots : op.template.slots = [(.operand 0, false), (.text s, false)])
    (hscan : scan (α := Leaf) [] s.toList = [.call name, .sign ")"])
    (hname : method? name = some op) (hop : op.operandStrength = Strength.call) (n : Nat)
    (fs : List (Reader.Frame Leaf)) :
    Reads (Expr.apply op [x]).tokens fs n fs (.node op [x.regrouped]) := by
  have tokens : (Expr.apply op [x]).tokens =
      operandTokens op 0 false x ++ [.call name, .sign ")"] := by
    rw [tokens_apply h, hslots]
    simp [slotTokens, hscan]
  apply Reads.of_run
  rw [tokens, run_append, hx.receiver hop, Option.bind_some, run_method₀ hname]

theorem reads_method₁ {s s' name : String} (h : (Expr.apply op [x, y]).WellFormed)
    (hx : x.Readable) (hy : y.Readable)
    (hslots : op.template.slots =
      [(.operand 0, false), (.text s, false), (.operand 1, true), (.text s', false)])
    (hscan : scan (α := Leaf) [] s.toList = [.call name])
    (hscan' : scan (α := Leaf) [] s'.toList = [.sign ")"])
    (hname : method? name = some op) (hop : op.operandStrength = Strength.call) (n : Nat)
    (fs : List (Reader.Frame Leaf)) :
    Reads (Expr.apply op [x, y]).tokens fs n fs (.node op [x.regrouped, y.regrouped]) := by
  have tokens : (Expr.apply op [x, y]).tokens = operandTokens op 0 false x ++
      .call name :: (operandTokens op 1 true y ++ [.sign ")"]) := by
    rw [tokens_apply h, hslots]
    simp [slotTokens, hscan, hscan']
  apply Reads.of_run
  rw [tokens, run_append, hx.receiver hop, Option.bind_some, run_method₁ hname hy]

theorem reads_substring (h : (Expr.apply .substring [x, y, z]).WellFormed) (hx : x.Readable)
    (hy : y.Readable) (hz : z.Readable) (n : Nat) (fs : List (Reader.Frame Leaf)) :
    Reads (Expr.apply .substring [x, y, z]).tokens fs n fs
      (.node .substring [x.regrouped, y.regrouped, z.regrouped]) := by
  have slots : Operator.substring.template.slots = [(.operand 0, false),
      (.text ".substring(", false), (.operand 1, true), (.text ",", false), (.operand 2, true),
      (.text ")", false)] := rfl
  have opening : scan (α := Leaf) [] ".substring(".toList = [.call ".substring"] := rfl
  have comma : scan (α := Leaf) [] ",".toList = [.sign ","] := rfl
  have closing : scan (α := Leaf) [] ")".toList = [.sign ")"] := rfl
  have tokens : (Expr.apply .substring [x, y, z]).tokens = operandTokens .substring 0 false x ++
      (.call ".substring" :: (operandTokens .substring 1 true y ++ [.sign ","]) ++
        (operandTokens .substring 2 true z ++ [.sign ")"])) := by
    rw [tokens_apply h, slots]
    simp only [List.flatMap_cons, List.flatMap_nil, slotTokens, opening, comma, closing]
    simp
  apply Reads.of_run
  rw [tokens, run_append, hx.receiver rfl, Option.bind_some, run_method₂ rfl hy hz]

/-- A function. -/
theorem run_function {name : String} (hname : function? name = some op) (hx : x.Readable)
    (f : Operator) (index : Nat) (fs : List (Reader.Frame Leaf)) :
    run ⟨fs, none⟩ (.call name :: (operandTokens f index true x ++ [.sign ")"])) =
      some ⟨fs, some (.node op [x.regrouped])⟩ := by
  rw [run_cons]
  simp only [step, hname, Option.map_some, Option.bind_some]
  exact (hx.argument f op index [] [] fs).run_close

theorem reads_function {s s' name : String} (h : (Expr.apply op [x]).WellFormed)
    (hx : x.Readable)
    (hslots : op.template.slots = [(.text s, false), (.operand 0, true), (.text s', false)])
    (hscan : scan (α := Leaf) [] s.toList = [.call name])
    (hscan' : scan (α := Leaf) [] s'.toList = [.sign ")"])
    (hname : function? name = some op) (n : Nat) (fs : List (Reader.Frame Leaf)) :
    Reads (Expr.apply op [x]).tokens fs n fs (.node op [x.regrouped]) := by
  have tokens : (Expr.apply op [x]).tokens =
      .call name :: (operandTokens op 0 true x ++ [.sign ")"]) := by
    rw [tokens_apply h, hslots]
    simp [slotTokens, hscan, hscan']
  apply Reads.of_run
  rw [tokens, run_function hname hx]

/-- The number of distinct rows is written as a number of rows with a word more. -/
theorem reads_countDistinct (h : (Expr.apply .countDistinct [x]).WellFormed) (hx : x.Readable)
    (n : Nat) (fs : List (Reader.Frame Leaf)) :
    Reads (Expr.apply .countDistinct [x]).tokens fs n fs (.node .countDistinct [x.regrouped]) := by
  have slots : Operator.countDistinct.template.slots =
      [(.text "count(distinct ", false), (.operand 0, false), (.text ")", false)] := rfl
  have opening : scan (α := Leaf) [] "count(distinct ".toList =
      [.call "count", .sign "distinct"] := rfl
  have closing : scan (α := Leaf) [] ")".toList = [.sign ")"] := rfl
  have tokens : (Expr.apply .countDistinct [x]).tokens = [.call "count", .sign "distinct"] ++
      (operandTokens .countDistinct 0 false x ++ [.sign ")"]) := by
    rw [tokens_apply h, slots]
    simp only [List.flatMap_cons, List.flatMap_nil, slotTokens, opening, closing]
    simp
  have opened : run ⟨fs, none⟩ [.call "count", .sign "distinct"] =
      some ⟨.call .countDistinct [] [] :: fs, none⟩ := rfl
  have hop : Operator.countDistinct.operandStrength = Strength.call := rfl
  have operand := hx.receiver hop 0 (.call .countDistinct [] [] :: fs)
  apply Reads.of_run
  rw [tokens, run_append, opened]
  exact (Reads.of_run (n := 0) operand).run_close

/-- A comparison with null. -/
theorem reads_null {s sign : String} {f : Operator} (h : (Expr.apply op [x]).WellFormed)
    (hx : x.Readable)
    (hslots : op.template.slots = [(.operand 0, false), (.text s, false)])
    (hscan : scan (α := Leaf) [] s.toList = [.sign sign, .sign "null"])
    (hsign : binary? sign = some f) (hop : op.operandStrength = Strength.equality)
    (hlevel : level f = levelFor Strength.equality) {fs : List (Reader.Frame Leaf)}
    (ready : Ready (level f) fs) :
    Reads (Expr.apply op [x]).tokens fs (level f) fs (.node f [x.regrouped, .word "null"]) := by
  have tokens : (Expr.apply op [x]).tokens =
      (operandTokens op 0 false x ++ [.sign sign]) ++ [.sign "null"] := by
    rw [tokens_apply h, hslots]
    simp [slotTokens, hscan]
  have operand := hx.placed ((congrArg levelFor hop).trans hlevel.symm) 0 ready
  have null : run ⟨.waiting f [x.regrouped] :: fs, none⟩ [.sign "null"] =
      some ⟨.waiting f [x.regrouped] :: fs, some (.word "null")⟩ := rfl
  rw [tokens]
  refine .after (operand.run_sign hsign (hlevel ▸ by decide) (Nat.le_refl _) ready) ?_
  refine (Reads.of_run null).congr ?_
  rw [settle, if_pos (Nat.le_refl _)]
  rfl

/-- A text contains another if it has a position in it. -/
theorem reads_stringContains (h : (Expr.apply .stringContains [x, y]).WellFormed)
    (hx : x.Readable) (hy : y.Readable) {fs : List (Reader.Frame Leaf)} (ready : Ready 4 fs) :
    Reads (Expr.apply .stringContains [x, y]).tokens fs 4 fs
      (.node .gt [.node .indexOf [x.regrouped, y.regrouped], .node .neg [.word "1"]]) := by
  have slots : Operator.stringContains.template.slots = [(.operand 0, false),
      (.text ".indexOf(", false), (.operand 1, true), (.text ") > -1", false)] := rfl
  have opening : scan (α := Leaf) [] ".indexOf(".toList = [.call ".indexOf"] := rfl
  have closing : scan (α := Leaf) [] ") > -1".toList =
      [.sign ")", .sign ">", .sign "-", .sign "1"] := rfl
  have tokens : (Expr.apply .stringContains [x, y]).tokens =
      operandTokens .stringContains 0 false x ++ ((.call ".indexOf" ::
        (operandTokens .stringContains 1 true y ++ [.sign ")"])) ++
          [.sign ">", .sign "-", .sign "1"]) := by
    rw [tokens_apply h, slots]
    simp only [List.flatMap_cons, List.flatMap_nil, slotTokens, opening, closing]
    simp
  let position := Tree.node .indexOf [x.regrouped, y.regrouped]
  -- The minus before the number is read as a negation that is still waiting at the end.
  have rest : run ⟨fs, some position⟩ [.sign ">", .sign "-", .sign "1"] =
      some ⟨.waiting .neg [] :: .waiting .gt [position] :: fs, some (.word "1")⟩ := by
    have compared : step ⟨fs, some position⟩ (.sign ">") =
        some ⟨.waiting .gt [position] :: fs, none⟩ := by
      simp [step, signAfter, binary?, level, ready.settle (by decide) position]
    rw [run_cons, compared]
    rfl
  have whole : run ⟨fs, none⟩ (Expr.apply .stringContains [x, y]).tokens =
      some ⟨.waiting .neg [] :: .waiting .gt [position] :: fs, some (.word "1")⟩ := by
    rw [tokens, run_append, hx.receiver rfl, Option.bind_some, run_append,
      run_method₁ rfl hy, Option.bind_some, rest]
  exact (Reads.of_run whole).congr rfl

/-- A collection is not empty if the test for emptiness fails. -/
theorem reads_isNotEmpty (h : (Expr.apply .isNotEmpty [x]).WellFormed) (hx : x.Readable)
    (fs : List (Reader.Frame Leaf)) : Reads (Expr.apply .isNotEmpty [x]).tokens fs 7 fs
      (.node .not [.node .isEmpty [x.regrouped]]) := by
  have slots : Operator.isNotEmpty.template.slots = [(.text "!", false), (.operand 0, false),
      (.text ".isEmpty()", false)] := rfl
  have opening : scan (α := Leaf) [] "!".toList = [.sign "!"] := rfl
  have closing : scan (α := Leaf) [] ".isEmpty()".toList = [.call ".isEmpty", .sign ")"] := rfl
  have tokens : (Expr.apply .isNotEmpty [x]).tokens =
      [.sign "!"] ++ (operandTokens .isNotEmpty 0 false x ++ [.call ".isEmpty", .sign ")"]) := by
    rw [tokens_apply h, slots]
    simp only [List.flatMap_cons, List.flatMap_nil, slotTokens, opening, closing]
    simp
  have front : run ⟨fs, none⟩ [.sign "!"] = some ⟨.waiting .not [] :: fs, none⟩ := rfl
  have whole : run ⟨fs, none⟩ (Expr.apply .isNotEmpty [x]).tokens =
      some ⟨.waiting .not [] :: fs, some (.node .isEmpty [x.regrouped])⟩ := by
    rw [tokens, run_append, front, Option.bind_some, run_append, hx.receiver rfl,
      Option.bind_some, run_method₀ rfl]
  exact (Reads.of_run whole).congr rfl

/-- One of the two comparisons in a test against a range. -/
theorem reads_comparison (hx : x.Readable) (hy : y.Readable) {f : Operator} (hf : level f = 4)
    {sign : String} (hsign : binary? sign = some f) {index : Nat} (hindex : index ≠ 0)
    {fs : List (Reader.Frame Leaf)} (ready : Ready 4 fs) :
    Reads ((operandTokens .between 0 false x ++ [.sign sign]) ++
      operandTokens .between index false y) fs 4 fs (.node f [x.regrouped, y.regrouped]) := by
  have subject : Reads (operandTokens .between 0 false x) fs 4 fs x.regrouped :=
    hx.placed rfl 0 ready
  have limit : Reads (operandTokens .between index false y) (.waiting f [x.regrouped] :: fs) 4
      (.waiting f [x.regrouped] :: fs) y.regrouped := by
    refine hy.operand ?_
    intro hw
    have hlt : Strength.relation < y.strength :=
      (operandStrength_lt hindex (by decide) hw).resolve_right fun h => nomatch h.1
    have : levelFor Strength.relation < levelFor y.strength := levelFor_lt hlt y.strength_ne_three
    exact ⟨ready_waiting (.inl (hf ▸ this)) _ _, Nat.le_of_lt this⟩
  have opened := subject.run_sign hsign (by omega) (Nat.le_of_eq hf) (hf ▸ ready)
  refine .after opened (limit.congr ?_)
  rw [settle, if_pos (Nat.le_of_eq hf.symm)]
  rfl

/-- A test against a range is two comparisons. -/
theorem readable_between (h : (Expr.apply .between [x, y, z]).WellFormed) (hx : x.Readable)
    (hy : y.Readable) (hz : z.Readable) : (Expr.apply .between [x, y, z]).Readable := by
  intro p fs hp ready
  have slots : Operator.between.template.slots = [(.operand 0, false), (.text " >= ", false),
      (.operand 1, false), (.text " && ", false), (.operand 0, false), (.text " <= ", false),
      (.operand 2, false)] := rfl
  have ge : scan (α := Leaf) [] " >= ".toList = [.sign ">="] := rfl
  have and : scan (α := Leaf) [] " && ".toList = [.sign "&&"] := rfl
  have le : scan (α := Leaf) [] " <= ".toList = [.sign "<="] := rfl
  have tokens : (Expr.apply .between [x, y, z]).tokens =
      (((operandTokens .between 0 false x ++ [.sign ">="]) ++
        operandTokens .between 1 false y) ++ [.sign "&&"]) ++
          ((operandTokens .between 0 false x ++ [.sign "<="]) ++
            operandTokens .between 2 false z) := by
    rw [tokens_apply h, slots]
    simp only [List.flatMap_cons, List.flatMap_nil, slotTokens, ge, and, le]
    simp
  -- The first comparison is where the expression is, and takes what waits there.
  have hge : binary? ">=" = some .ge := rfl
  have hle : binary? "<=" = some .le := rfl
  have hand : binary? "&&" = some .and := rfl
  have place : Ready 4 (p.frames fs) :=
    ready_frames hp (show levelFor Strength.conjunction < 4 by decide) ready
  have first := ((reads_comparison hx hy rfl hge (Nat.succ_ne_zero 0) place).mono
    (show levelFor Strength.conjunction ≤ 4 by decide)).congr (settle_frames hp fs _)
  have opened := first.run_sign hand (by decide) (by decide) ready
  -- The second waits for nothing but the end, with the first on its left.
  have place : Ready 4 (.waiting .and [p.close (.node .ge [x.regrouped, y.regrouped])] :: fs) :=
    ready_waiting (.inl (by decide)) _ fs
  have second := (reads_comparison hx hz rfl hle (Nat.succ_ne_zero 1) place).mono
    (show levelFor Strength.conjunction ≤ 4 by decide)
  have complete : (Expr.apply .between [x, y, z]).chain.complete p = .node .and
      [p.close (.node .ge [x.regrouped, y.regrouped]), .node .le [x.regrouped, z.regrouped]] := by
    rw [chain_of_not_isInfix rfl]
    cases p <;> rfl
  rw [tokens, complete]
  exact .after opened (second.congr rfl)

end Alone

theorem readable_leaf {e : Expr} (h : ∀ op, e.isAsTight op = false)
    (hrun : ∀ fs, run ⟨fs, none⟩ e.tokens = some ⟨fs, some e.regrouped⟩) : e.Readable := by
  intro p fs hp _
  match p with
  | none => exact .of_run (hrun fs)
  | some (op, left) => exact absurd (hp op left rfl).2 (by simp [h])

/-- **The tokens of a well-formed expression leave the tree of its chain**, in every place that is
ready for it. -/
theorem readable {e : Expr} (h : e.WellFormed) : e.Readable := by
  induction h with
  | path q => exact readable_leaf (fun _ => rfl) fun _ => rfl
  | className name => exact readable_leaf (fun _ => rfl) fun _ => rfl
  | literal v =>
    refine readable_leaf (fun _ => rfl) ?_
    intro fs
    cases hv : v.isNull with
    | true =>
      have : (Expr.literal v).tokens = [.sign "null"] := by
        simp [tokens, Patterns.pieces, Patterns.marks, Mark.piece, hv, Reader.tokens, pieceTokens]
        rfl
      simp [this, regrouped, chain, Chain.tree, Leaf.tree, hv, run, step, signBefore, unary?,
        isOperandWord]
    | false =>
      have : (Expr.literal v).tokens = [.atom (.literal v)] := by
        simp [tokens, Patterns.pieces, Patterns.marks, Mark.piece, hv, Reader.tokens, pieceTokens]
      simp [this, regrouped, chain, Chain.tree, Leaf.tree, hv, run, step]
  | @apply op xs arity fits operands ih =>
    have h := WellFormed.apply arity fits operands
    -- One case for each shape of template.
    cases hop : op.isInfix with
    | true =>
      obtain ⟨x, y, rfl⟩ := h.operands_of_isInfix hop
      exact readable_of_isInfix hop h (ih x (by simp)) (ih y (by simp))
    | false =>
      cases op with
      | between =>
        obtain ⟨x, y, z, rfl⟩ := List.length_eq_three.1 arity
        exact readable_between h (ih x (by simp)) (ih y (by simp)) (ih z (by simp))
      | substring =>
        obtain ⟨x, y, z, rfl⟩ := List.length_eq_three.1 arity
        exact readable_of_reads rfl (by decide) fun fs _ =>
          reads_substring h (ih x (by simp)) (ih y (by simp)) (ih z (by simp)) _ fs
      | stringContains =>
        obtain ⟨x, y, rfl⟩ := List.length_eq_two.1 arity
        exact readable_of_reads rfl (by decide) fun fs ready =>
          reads_stringContains h (ih x (by simp)) (ih y (by simp)) ready
      | startsWith | endsWith | «matches» | indexOf | charAt | contains | containsKey
      | containsValue | get =>
        obtain ⟨x, y, rfl⟩ := List.length_eq_two.1 arity
        exact readable_of_reads rfl (by decide) fun fs _ =>
          reads_method₁ h (ih x (by simp)) (ih y (by simp)) rfl rfl rfl rfl rfl _ fs
      | not | neg =>
        obtain ⟨x, rfl⟩ := List.length_eq_one_iff.1 arity
        exact readable_of_reads rfl (by decide) fun fs _ =>
          reads_front h (ih x (by simp)) rfl rfl rfl rfl rfl fs
      | isNull | isNotNull =>
        obtain ⟨x, rfl⟩ := List.length_eq_one_iff.1 arity
        exact readable_of_reads rfl (by decide) fun fs ready =>
          reads_null h (ih x (by simp)) rfl rfl rfl rfl rfl ready
      | lower | upper | length | isEmpty | size =>
        obtain ⟨x, rfl⟩ := List.length_eq_one_iff.1 arity
        exact readable_of_reads rfl (by decide) fun fs _ =>
          reads_method₀ h (ih x (by simp)) rfl rfl rfl rfl _ fs
      | isNotEmpty =>
        obtain ⟨x, rfl⟩ := List.length_eq_one_iff.1 arity
        exact readable_of_reads rfl (by decide) fun fs _ => reads_isNotEmpty h (ih x (by simp)) fs
      | abs | sqrt | count | sum | avg | min | max =>
        obtain ⟨x, rfl⟩ := List.length_eq_one_iff.1 arity
        exact readable_of_reads rfl (by decide) fun fs _ =>
          reads_function h (ih x (by simp)) rfl rfl rfl rfl _ fs
      | countDistinct =>
        obtain ⟨x, rfl⟩ := List.length_eq_one_iff.1 arity
        exact readable_of_reads rfl (by decide) fun fs _ =>
          reads_countDistinct h (ih x (by simp)) _ fs
      | _ => cases hop

/-- **The text of a well-formed expression is read as the tree of its chain.** -/
theorem read_pieces {e : Expr} (h : e.WellFormed) :
    Reader.read (Patterns.default.pieces e) = some e.regrouped := by
  have ready : Ready (levelFor e.strength) ([] : List (Reader.Frame Leaf)) := by
    rintro _ _ ⟨⟩
  obtain ⟨gs, u, hrun, hu⟩ := ((readable h).alone ready).mono (Nat.zero_le _)
  have hu : settle 0 gs u = ([], e.regrouped) := hu
  have hrun : run ⟨[], none⟩ (Reader.tokens (Patterns.default.pieces e)) = some ⟨gs, some u⟩ := hrun
  simp [Reader.read, hrun, result?, hu]

end Expr

end StoreQuery
