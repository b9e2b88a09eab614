import StoreQuery.Proofs.Clause.Leaves
import StoreQuery.Proofs.Clause.Spelling

/-!
# Writing in place

A clause can be written in place: every step gets the whole draft, changes it and may fail after
part of it is written. Such a step could look back at the text. This walk never does, and so it only
appends: what it adds depends on the bindings and on nothing else of the draft.

* `Scribe` : a step that changes a draft, and `Scribe.visit` : the walk over an expression;
* `Scribe.Appends` : the step appends what a `Writer` writes, also when it fails;
* `Scribe.appends_perform`, `Scribe.exists_gain` : what one call and what a row of calls appends;
* `Scribe.calls_only_append` : **whatever is written, what is there stays**, and a list is written
  as its parts are.
-/

namespace StoreQuery

/-! ### Lists of writers -/

namespace Writer

variable (separator : String)

/-- The text between comes before each step but the first. -/
theorem separated_cons (w : Writer) (ws : List Writer) : separated separator (w :: ws) =
    w.andThen (all (ws.map fun w => (text separator).andThen w)) := by
  induction ws generalizing w with
  | nil => simp [separated]
  | cons v ws ih =>
    rw [separated, ih, List.map_cons, all_cons, andThen_assoc]
    exact nofun

/-- Two lists with the text between them are one list. -/
theorem separated_append {us ws : List Writer} (hus : us ≠ []) (hws : ws ≠ []) :
    separated separator (us ++ ws) =
      (separated separator us).andThen ((text separator).andThen (separated separator ws)) := by
  obtain ⟨u, us, rfl⟩ := List.exists_cons_of_ne_nil hus
  obtain ⟨w, ws, rfl⟩ := List.exists_cons_of_ne_nil hws
  simp only [List.cons_append, separated_cons, List.map_append, List.map_cons, all_append, all_cons,
    andThen_assoc]

end Writer

/-! ### Steps in place -/

/-- A step of writing in place. It gets the draft so far. -/
abbrev Scribe := Draft → Draft × Option ClauseError

namespace Scribe

/-- Do nothing. -/
def done : Scribe := fun d => (d, none)

/-- Put a text at the end of the draft. -/
def push (s : String) : Scribe := fun d => (⟨d.text ++ s, d.bindings⟩, none)

/-- Leave the draft as it is and fail. -/
def refuse (e : ClauseError) : Scribe := fun d => (d, some e)

/-- One step after another; an error ends both. -/
def andThen (first second : Scribe) : Scribe := fun d =>
  match first d with
  | (d, none) => second d
  | (d, some e) => (d, some e)

/-- A step for each element, left to right. -/
def each {α : Type} (step : α → Scribe) : List α → Scribe
  | [] => done
  | a :: as => (step a).andThen (each step as)

/-- A step for each element, with a text before it unless it is the first. -/
def eachWith {α : Type} (separator : String) (step : α → Scribe) (as : List α) : Scribe :=
  each (fun a => (if 0 < a.2 then push separator else done).andThen (step a.1)) as.zipIdx

/-- Write an operand at a placeholder. -/
def operand (op : Operator) (index : Nat) (enclosed : Bool) (x : Expr × Scribe) : Scribe :=
  let wrapped := !enclosed && Pass.needsParens op index x.1
  (if wrapped then push "(" else done).andThen (x.2.andThen (if wrapped then push ")" else done))

/-- Write a piece of a template. -/
def slot (op : Operator) (operands : List (Expr × Scribe)) : Segment × Bool → Scribe
  | (.text s, _) => push s
  | (.operand index, enclosed) =>
    match operands[index]? with
    | some x => operand op index enclosed x
    | none => refuse (.missingOperand op index)

variable (p : Pass)

/-- Write a literal. The label that it is given is put among the bindings of the draft. -/
def literal (v : Value) : Scribe := fun d =>
  if v.isNull then push "null" d
  else
    match p.scheme? with
    | none => refuse .literalWithoutLabel d
    | some scheme =>
      let (label, b) := d.bindings.labelFor v scheme p.reserved
      push label { d with bindings := b }

/-- Write an application by the template of its operator. -/
def application (op : Operator) (operands : List (Expr × Scribe)) : Scribe :=
  if operands.length ≠ op.arity then refuse (.wrongArity op operands.length)
  else if Patterns.fits op (operands.map (·.1)) then
    each (slot op operands) (p.patterns.template op).slots
  else refuse .classNameRequired

mutual
/-- Write an expression. -/
def visit : Expr → Scribe
  | .literal v => literal p v
  | .path q => push (p.pathText q)
  | .className name => push name
  | .apply op xs => application p op (visitAll xs)
  | .construct _ _ => refuse .constructOutsideProjection

/-- The operands of an application. -/
def visitAll : List Expr → List (Expr × Scribe)
  | [] => []
  | x :: xs => (x, visit x) :: visitAll xs
end

/-- Write a sort key. -/
def visitKey (key : SortKey) : Scribe :=
  (visit p key.target).andThen ((push " ").andThen (push key.direction.keyword))

/-- What can be asked of a pass. -/
inductive Call where
  /-- Write a text as it is. -/
  | text (s : String)
  /-- Write an expression. -/
  | expr (x : Expr)
  /-- Write expressions with a text between each two. -/
  | list (separator : String) (xs : List Expr)
  /-- Write sort keys. -/
  | sort (keys : List SortKey)

/-- Do what is asked for, in place. -/
def perform : Call → Scribe
  | .text s => push s
  | .expr x => visit p x
  | .list separator xs => eachWith separator (visit p) xs
  | .sort keys => eachWith ", " (visitKey p) keys

/-- Do what is asked for, one call after another, and note how each ends. A call that fails does not
keep the next from being made. -/
def performAll : List Call → Draft → Draft × List (Option ClauseError)
  | [], d => (d, [])
  | call :: calls, d =>
    let (d, outcome) := perform p call d
    let (d, outcomes) := performAll calls d
    (d, outcome :: outcomes)

/-! ### What a step appends -/

/-- The step appends to any draft what the writer writes, up to the error if there is one. -/
def Appends (s : Scribe) (w : Writer) : Prop := ∀ d, s d = d.append w

theorem appends_push (s : String) : (push s).Appends (.text s) := fun _ => rfl

theorem appends_done : done.Appends (.text "") := by
  intro d
  simp [done, Draft.append, Writer.text]

theorem appends_refuse (e : ClauseError) : (refuse e).Appends (.fail e) := by
  intro d
  simp [refuse, Draft.append, Writer.fail]

theorem Appends.andThen {s t : Scribe} {u v : Writer} (hs : s.Appends u) (ht : t.Appends v) :
    (s.andThen t).Appends (u.andThen v) := by
  intro d
  rcases h : u d.bindings with ⟨text, b, _ | e⟩
  · have first : s d = (⟨d.text ++ text, b⟩, none) := by simp only [hs d, Draft.append, h]
    simp only [Scribe.andThen, first, ht ⟨d.text ++ text, b⟩, Draft.append, Writer.andThen, h,
      String.append_assoc]
  · have first : s d = (⟨d.text ++ text, b⟩, some e) := by simp only [hs d, Draft.append, h]
    simp only [Scribe.andThen, first, Draft.append, Writer.andThen, h]

section

variable {α : Type} {step : α → Scribe} {w : α → Writer}

theorem appends_each {as : List α} (h : ∀ a ∈ as, (step a).Appends (w a)) :
    (each step as).Appends (Writer.all (as.map w)) := by
  induction as with
  | nil => exact appends_done
  | cons a as ih =>
    obtain ⟨ha, has⟩ := List.forall_mem_cons.1 h
    exact ha.andThen (ih has)

theorem appends_eachWith (separator : String) {as : List α}
    (h : ∀ a ∈ as, (step a).Appends (w a)) :
    (eachWith separator step as).Appends (Writer.separated separator (as.map w)) := by
  cases as with
  | nil => exact appends_done
  | cons a as =>
    obtain ⟨ha, has⟩ := List.forall_mem_cons.1 h
    -- The elements that follow have places from one on.
    have rest : (each (fun a => (if 0 < a.2 then push separator else done).andThen (step a.1))
        (as.zipIdx 1)).Appends
        (Writer.all ((as.zipIdx 1).map fun a => (Writer.text separator).andThen (w a.1))) := by
      refine appends_each ?_
      rintro ⟨b, i⟩ hb
      obtain ⟨hi, -, hget⟩ := List.mem_zipIdx hb
      have positive : 0 < i := hi
      dsimp only
      rw [if_pos positive]
      exact (appends_push separator).andThen (has b (hget ▸ List.getElem_mem _))
    have places : (as.zipIdx 1).map (fun a => (Writer.text separator).andThen (w a.1)) =
        (as.map w).map fun u => (Writer.text separator).andThen u := by
      conv_rhs => rw [← List.zipIdx_map_fst 1 as, List.map_map, List.map_map]
      rfl
    rw [places] at rest
    rw [List.map_cons, Writer.separated_cons]
    have first := (appends_done.andThen ha).andThen rest
    rw [Writer.text_empty_andThen] at first
    exact first

end

theorem visitAll_eq_map (xs : List Expr) : visitAll p xs = xs.map fun x => (x, visit p x) := by
  induction xs with
  | nil => rfl
  | cons x xs ih => simp [visitAll, ih]

theorem appends_operand {op : Operator} {index : Nat} {enclosed : Bool} {x : Expr} {s : Scribe}
    {w : Writer} (h : s.Appends w) :
    (operand op index enclosed (x, s)).Appends (Pass.operand op index enclosed (x, w)) := by
  unfold operand Pass.operand
  dsimp only
  cases !enclosed && Pass.needsParens op index x with
  | true => exact (appends_push "(").andThen (h.andThen (appends_push ")"))
  | false =>
    have plain := appends_done.andThen (h.andThen appends_done)
    rw [Writer.text_empty_andThen, Writer.andThen_text_empty] at plain
    exact plain

theorem appends_slot {op : Operator} {xs : List Expr}
    (h : ∀ x ∈ xs, (visit p x).Appends (p.write x)) (s : Segment × Bool) :
    (slot op (xs.map fun x => (x, visit p x)) s).Appends
      (Pass.slot op (xs.map fun x => (x, p.write x)) s) := by
  obtain ⟨s | index, enclosed⟩ := s
  · exact appends_push s
  · simp only [slot, Pass.slot, List.getElem?_map]
    cases hx : xs[index]? with
    | none => exact appends_refuse _
    | some x => exact appends_operand (h x (List.mem_of_getElem? hx))

/-- The walk in place appends what is written of the expression. -/
theorem appends_visit (x : Expr) : (visit p x).Appends (p.write x) := by
  induction x with
  | literal v =>
    intro d
    unfold visit literal Pass.write Pass.literal Draft.append
    cases v.isNull with
    | true => rfl
    | false =>
      cases p.scheme? with
      | none => exact appends_refuse _ d
      | some scheme => rfl
  | path q => exact appends_push _
  | className name => exact appends_push name
  | construct => exact appends_refuse _
  | apply op xs ih =>
    simp only [visit, visitAll_eq_map, Pass.write, Pass.operands_eq_map, application,
      Pass.application, Pass.operandsFit_eq_fits, List.length_map, List.map_map, Function.comp_def]
    split
    · exact appends_refuse _
    · split
      · exact appends_each fun s _ => appends_slot p ih s
      · exact appends_refuse _

theorem appends_visitKey (key : SortKey) : (visitKey p key).Appends (p.writeKey key) := by
  have written : p.writeKey key = (p.write key.target).andThen
      ((Writer.text " ").andThen (Writer.text key.direction.keyword)) := rfl
  rw [written]
  exact (appends_visit p key.target).andThen ((appends_push " ").andThen (appends_push _))

/-! ### Calls -/

/-- What a call writes. -/
def Call.writer : Call → Writer
  | .text s => .text s
  | .expr x => p.write x
  | .list separator xs => p.writeList separator xs
  | .sort keys => p.writeSort keys

/-- A call appends what it writes. -/
theorem appends_perform (call : Call) : (perform p call).Appends (call.writer p) := by
  cases call with
  | text s => exact appends_push s
  | expr x => exact appends_visit p x
  | list separator xs => exact appends_eachWith separator fun x _ => appends_visit p x
  | sort keys => exact appends_eachWith ", " fun key _ => appends_visitKey p key

theorem extends_writer (call : Call) : (call.writer p).Extends := by
  cases call with
  | text s => exact .text s
  | expr x =>
    rw [Call.writer, Pass.write_eq_marks]
    exact p.extends_markAll _
  | list separator xs =>
    rw [Call.writer, Pass.writeList_eq_marks]
    exact p.extends_markAll _
  | sort keys =>
    rw [Call.writer, Pass.writeSort_eq_marks]
    exact p.extends_markAll _

/-- What calls add to a draft. -/
structure Gain where
  /-- The text that is appended. -/
  text : String
  /-- The bindings afterwards. -/
  bindings : Bindings
  /-- How each call ended. -/
  outcomes : List (Option ClauseError)

/-- Whatever calls are made, and however they end, they append a text and bindings that depend on
the bindings before and not on the text. -/
theorem exists_gain (calls : List Call) : ∃ gain : Bindings → Gain, ∀ d,
    performAll p calls d =
      (⟨d.text ++ (gain d.bindings).text, (gain d.bindings).bindings⟩,
        (gain d.bindings).outcomes) ∧
    d.bindings.entries <+: (gain d.bindings).bindings.entries := by
  induction calls with
  | nil =>
    refine ⟨fun b => ⟨"", b, []⟩, fun d => ⟨?_, List.prefix_refl _⟩⟩
    simp [performAll]
  | cons call calls ih =>
    obtain ⟨gain, hgain⟩ := ih
    -- What the later calls gain starts from the bindings that the first one leaves.
    refine ⟨fun b =>
      let written := call.writer p b
      ⟨written.text ++ (gain written.bindings).text, (gain written.bindings).bindings,
        written.error? :: (gain written.bindings).outcomes⟩, fun d => ?_⟩
    let written := call.writer p d.bindings
    obtain ⟨rest, kept⟩ := hgain ⟨d.text ++ written.text, written.bindings⟩
    refine ⟨?_, (extends_writer p call d.bindings).trans kept⟩
    have first : perform p call d =
        (⟨d.text ++ written.text, written.bindings⟩, written.error?) := appends_perform p call d
    simp only [performAll, first, rest, String.append_assoc]
    rfl

/-- **Whatever is written, what is there stays.** A call appends what it writes, and this depends on
the pass and on the bindings before it, but not on the text; so does a row of calls, in which some
may fail at any depth and others follow: the text before stays in front, no binding before is
changed, and the new text, the new bindings and the outcomes are the same after any other text. A
list in two parts is written as the first part, the text between and the second part, and it stops
where they stop. -/
theorem calls_only_append (p : Pass) :
    (∀ call d, perform p call d = d.append (call.writer p)) ∧
    (∀ calls, ∃ gain : Bindings → Gain, ∀ d,
      performAll p calls d =
        (⟨d.text ++ (gain d.bindings).text, (gain d.bindings).bindings⟩,
          (gain d.bindings).outcomes) ∧
      d.bindings.entries <+: (gain d.bindings).bindings.entries) ∧
    ∀ separator xs ys, xs ≠ [] → ys ≠ [] →
      perform p (.list separator (xs ++ ys)) =
        (perform p (.list separator xs)).andThen
          ((perform p (.text separator)).andThen (perform p (.list separator ys))) := by
  refine ⟨appends_perform p, exists_gain p, ?_⟩
  intro separator xs ys hxs hys
  have parts := (appends_perform p (.list separator xs)).andThen
    ((appends_perform p (.text separator)).andThen (appends_perform p (.list separator ys)))
  have whole : Call.writer p (.list separator (xs ++ ys)) =
      (Call.writer p (.list separator xs)).andThen
        ((Call.writer p (.text separator)).andThen (Call.writer p (.list separator ys))) := by
    simp only [Call.writer, Pass.writeList, List.map_append]
    exact Writer.separated_append separator (by simpa using hxs) (by simpa using hys)
  funext d
  rw [appends_perform p (.list separator (xs ++ ys)) d, whole]
  exact (parts d).symm

/-- Clauses on persons. -/
def persons : Pass := ⟨.default, ⟨"Person", "person"⟩, some .alphabetic, []⟩

/-- A name, a sum of which the second operand is refused, and a number that is not come to. -/
def torn : List Expr :=
  [.path ⟨"person", ["name"]⟩, .apply .add [.literal (.int 1), .construct "Pair" []],
    .literal (.int 2)]

/-- The list stops within the sum, and the next call goes on from there. -/
theorem calls_only_append_torn :
    perform persons (.list ", " (torn ++ torn)) =
      (perform persons (.list ", " torn)).andThen
        ((perform persons (.text ", ")).andThen (perform persons (.list ", " torn))) ∧
    (performAll persons [.list ", " (torn ++ torn), .expr (.literal (.int 2))]
      ⟨"by ", .empty⟩).1.text = "by name, a + b" ∧
    (performAll persons [.list ", " (torn ++ torn), .expr (.literal (.int 2))]
      ⟨"by ", .empty⟩).2 = [some .constructOutsideProjection, none] := by
  obtain ⟨-, -, parts⟩ := calls_only_append persons
  have nonempty : torn ≠ [] := List.cons_ne_nil _ _
  exact ⟨parts ", " torn torn nonempty nonempty, by decide +kernel, by decide +kernel⟩

end Scribe

end StoreQuery
