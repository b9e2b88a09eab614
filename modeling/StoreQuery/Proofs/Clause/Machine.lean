import StoreQuery.Grammar
import StoreQuery.Proofs.Clause.Reader

/-!
# Steps of the reader

What a reader does with the tokens of an operand depends on what waits before it. `Reads` says
what is left of them once the reader settles to some level, and for a place that is `Ready` for
that level, what a following sign, comma or parenthesis does.

* `Reader.Ready` : nothing that waits is as tight as the level;
* `Reader.Reads` : some tokens leave a tree, once the reader settles;
* `Reader.Reads.run_sign`, `Reader.Reads.run_close` and the like take one token more.
-/

namespace StoreQuery

namespace Reader

/-! ### Levels -/

/-- The level of the reader for a strength of the writer. They rank operators alike. -/
def levelFor (n : Nat) : Nat := if n < 3 then n else n - 1

theorem levelFor_mono {m n : Nat} (h : m ≤ n) : levelFor m ≤ levelFor n := by
  unfold levelFor
  split <;> split <;> omega

theorem levelFor_lt {m n : Nat} (h : m < n) (hn : n ≠ 3) : levelFor m < levelFor n := by
  unfold levelFor
  split <;> split <;> omega

variable {α : Type}

theorem settle_settle {m n : Nat} (h : m ≤ n) (fs : List (Frame α)) (t : Tree α) :
    settle m (settle n fs t).1 (settle n fs t).2 = settle m fs t := by
  fun_induction settle n fs t with
  | case1 op left fs t hn ih =>
    rw [ih, settle, if_pos (Nat.le_trans h hn)]
  | case2 op left fs t hn => rfl
  | case3 fs t hfs => rfl

/-- No operator that waits binds at level `n` or tighter, unless the level is that of operators in
front. -/
def Ready (n : Nat) (fs : List (Frame α)) : Prop :=
  ∀ op left, fs.head? = some (.waiting op left) → level op < n ∨ 7 ≤ n

theorem Ready.mono {m n : Nat} {fs : List (Frame α)} (h : Ready m fs) (hn : m ≤ n) :
    Ready n fs := by
  intro op left hfs
  have := h op left hfs
  omega

theorem Ready.settle {n : Nat} {fs : List (Frame α)} (h : Ready n fs) (hn : n < 7) (t : Tree α) :
    settle n fs t = (fs, t) := by
  match fs with
  | .waiting op left :: fs =>
    have := h op left rfl
    rw [Reader.settle, if_neg (by omega)]
  | .group :: fs | .call .. :: fs | [] => rfl

theorem ready_waiting {n : Nat} {op : Operator} (h : level op < n ∨ 7 ≤ n) (left : List (Tree α))
    (fs : List (Frame α)) : Ready n (.waiting op left :: fs) := by
  rintro _ _ ⟨⟩
  exact h

/-- Nothing binds tighter than a call. -/
theorem settle_call (fs : List (Frame α)) (t : Tree α) :
    settle (levelFor Strength.call) fs t = (fs, t) := by
  match fs with
  | .waiting op left :: fs =>
    have : ¬ levelFor Strength.call ≤ level op := by cases op <;> decide
    rw [Reader.settle, if_neg this]
  | .group :: fs | .call .. :: fs | [] => rfl

theorem run_append (ts us : List (Token α)) (s : State α) :
    run s (ts ++ us) = (run s ts).bind fun s => run s us := by
  simp [run, List.foldlM_append]

theorem run_snoc {ts : List (Token α)} {s s' : State α} (h : run s ts = some s') (tk : Token α) :
    run s (ts ++ [tk]) = step s' tk := by
  rw [run_append, h]
  simp [run]

theorem run_cons (tk : Token α) (ts : List (Token α)) (s : State α) :
    run s (tk :: ts) = (step s tk).bind fun s => run s ts := rfl

/-- The tokens, read in `before`, leave the reader with `t` in `fs`, once it settles to level
`n`. -/
def Reads (ts : List (Token α)) (before : List (Frame α)) (n : Nat) (fs : List (Frame α))
    (t : Tree α) : Prop :=
  ∃ gs u, run ⟨before, none⟩ ts = some ⟨gs, some u⟩ ∧ settle n gs u = settle n fs t

namespace Reads

variable {ts us : List (Token α)} {before fs gs : List (Frame α)} {m n : Nat} {t : Tree α}

theorem of_run (h : run ⟨before, none⟩ ts = some ⟨fs, some t⟩) : Reads ts before n fs t :=
  ⟨fs, t, h, rfl⟩

theorem congr {t' : Tree α} {fs' : List (Frame α)} (h : Reads ts before n fs t)
    (hs : Reader.settle n fs t = Reader.settle n fs' t') : Reads ts before n fs' t' := by
  obtain ⟨gs, u, hrun, hu⟩ := h
  exact ⟨gs, u, hrun, hu.trans hs⟩

theorem mono (h : Reads ts before n fs t) (hm : m ≤ n) : Reads ts before m fs t := by
  obtain ⟨gs, u, hrun, hu⟩ := h
  refine ⟨gs, u, hrun, ?_⟩
  rw [← settle_settle hm, hu, settle_settle hm]

theorem after (hts : run ⟨before, none⟩ ts = some ⟨gs, none⟩) (h : Reads us gs n fs t) :
    Reads (ts ++ us) before n fs t := by
  obtain ⟨hs, u, hrun, hu⟩ := h
  refine ⟨hs, u, ?_, hu⟩
  rw [run_append, hts, Option.bind_some, hrun]

/-- At the level of calls nothing is left to settle. -/
theorem run_eq (h : Reads ts before (levelFor Strength.call) fs t) :
    run ⟨before, none⟩ ts = some ⟨fs, some t⟩ := by
  obtain ⟨gs, u, hrun, hu⟩ := h
  rw [settle_call, settle_call] at hu
  cases hu
  exact hrun

/-- A sign after an operand makes it the left one. -/
theorem run_sign {op : Operator} {s : String} (h : Reads ts before n fs t)
    (hs : binary? s = some op) (hop : level op < 7) (hn : level op ≤ n)
    (ready : Ready (level op) fs) :
    run ⟨before, none⟩ (ts ++ [.sign s]) = some ⟨.waiting op [t] :: fs, none⟩ := by
  obtain ⟨gs, u, hrun, hu⟩ := h.mono hn
  rw [ready.settle hop] at hu
  rw [run_snoc hrun]
  simp [step, signAfter, hs, hu]

theorem run_group (h : Reads ts (.group :: fs) n (.group :: fs) t) :
    run ⟨fs, none⟩ (.sign "(" :: (ts ++ [.sign ")"])) = some ⟨fs, some t⟩ := by
  obtain ⟨gs, u, hrun, hu⟩ := h.mono (Nat.zero_le n)
  have hu : settle 0 gs u = (.group :: fs, t) := hu
  change run ⟨.group :: fs, none⟩ (ts ++ [.sign ")"]) = _
  rw [run_snoc hrun]
  simp [step, signAfter, binary?, hu]

theorem run_close {op : Operator} {receiver operands : List (Tree α)}
    (h : Reads ts (.call op receiver operands :: fs) n (.call op receiver operands :: fs) t) :
    run ⟨.call op receiver operands :: fs, none⟩ (ts ++ [.sign ")"]) =
      some ⟨fs, some (.node op (receiver ++ operands ++ [t]))⟩ := by
  obtain ⟨gs, u, hrun, hu⟩ := h.mono (Nat.zero_le n)
  have hu : settle 0 gs u = (.call op receiver operands :: fs, t) := hu
  rw [run_snoc hrun]
  simp [step, signAfter, binary?, hu]

theorem run_comma {op : Operator} {receiver operands : List (Tree α)}
    (h : Reads ts (.call op receiver operands :: fs) n (.call op receiver operands :: fs) t) :
    run ⟨.call op receiver operands :: fs, none⟩ (ts ++ [.sign ","]) =
      some ⟨.call op receiver (operands ++ [t]) :: fs, none⟩ := by
  obtain ⟨gs, u, hrun, hu⟩ := h.mono (Nat.zero_le n)
  have hu : settle 0 gs u = (.call op receiver operands :: fs, t) := hu
  rw [run_snoc hrun]
  simp [step, signAfter, binary?, hu]

end Reads

end Reader

end StoreQuery
