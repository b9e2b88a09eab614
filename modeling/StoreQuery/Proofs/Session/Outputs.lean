import StoreQuery.Proofs.Session.Recorded

/-!
# Outputs and the answers read from them

An engine may return any output to any plan, whatever was asked for. Lists take rows only; counts
and single values take one row in either form. No reader drops a row or a column, and none takes
a value for a number that it is not.

* `Output.HasRow`, `Output.HasSeveral` : one row at most, or several;
* `Reads` : an answer is exactly what the output says, or else an error of the right kind;
* `Output.reads_column`, `Output.reads_rowList`, `Output.reads_single`, `Output.reads_total` : the
  four readers;
* `Session.answers_read_outputs` : **every answer is read so, from whatever the engine returns.**
-/

namespace StoreQuery

/-! ### What an output says -/

/-- The value is a natural number, as an integer of either width. -/
def Value.IsNatural (v : Value) (n : UInt64) : Prop :=
  (∃ i : Int32, v = .int i ∧ i.toInt = n.toNat) ∨ ∃ i : Int64, v = .long i ∧ i.toInt = n.toNat

namespace Output

/-- The output has this row and no other, or none at all, in either form. -/
def HasRow (o : Output) (row? : Option Row) : Prop := o = .unique row? ∨ o = .rows row?.toList

/-- The output has so many rows, and these are more than one. -/
def HasSeveral (o : Output) (n : Nat) : Prop := ∃ rows, o = .rows rows ∧ rows.length = n ∧ 2 ≤ n

/-- The output says that this is the only value, or that there is none. -/
def SaysSingle (o : Output) (v? : Option Value) : Prop := o.HasRow (v?.map fun v => [v])

/-- The output says that there are so many objects. -/
def SaysTotal (o : Output) (n : UInt64) : Prop := ∃ v : Value, o.HasRow (some [v]) ∧ v.IsNatural n

end Output

/-- The cause is an output that does not fit the question. -/
def QueryError.IsUnexpected (cause : QueryError) : Prop := cause.code = "UnexpectedOutput"

/-- The answer is read from the output. It is `a` exactly if the output says so. Where one row at
most is wanted, it is a violation of cardinality exactly if there are several, and tells their
number. From every other output it is the error that the output is unexpected. -/
structure Reads {α : Type} (o : Output) (Says : α → Prop) (oneWanted : Bool)
    (answer : Except QueryError α) : Prop where
  /-- What is answered. -/
  ok_iff : ∀ a, answer = .ok a ↔ Says a
  /-- When there are too many rows. -/
  severalRows_iff : ∀ n, answer = .error (.severalRows n) ↔ oneWanted = true ∧ o.HasSeveral n
  /-- What every other error is. -/
  unexpected : ∀ cause, answer = .error cause → (∃ n, cause = .severalRows n) ∨ cause.IsUnexpected

/-! ### Lists -/

theorem QueryError.not_isUnexpected_severalRows (n : Nat) : ¬ (severalRows n).IsUnexpected := by
  simp [IsUnexpected, code, report, Report.code]

theorem Row.single_failsFor_unexpected (row : Row) :
    FailsFor QueryError.IsUnexpected row.single := by
  rcases row with _ | ⟨v, _ | ⟨w, row⟩⟩
  · exact .error rfl
  · exact .ok v
  · exact .error rfl

namespace Output

/-- A reader of lists never counts rows. -/
theorem reads_list {α : Type} {o : Output} {Says : α → Prop} {answer : Except QueryError α}
    (ok_iff : ∀ a, answer = .ok a ↔ Says a) (fails : FailsFor QueryError.IsUnexpected answer) :
    Reads o Says false answer := by
  refine ⟨ok_iff, fun n => ⟨?_, nofun⟩, fun cause h => .inr (fails cause h)⟩
  intro h
  exact absurd (fails _ h) (QueryError.not_isUnexpected_severalRows n)

theorem rowList_failsFor_unexpected (o : Output) : FailsFor QueryError.IsUnexpected o.rowList := by
  cases o with
  | rows rows => exact .ok rows
  | unique row => exact .error rfl

theorem reads_rowList (o : Output) : Reads o (fun rows => o = .rows rows) false o.rowList := by
  refine reads_list ?_ o.rowList_failsFor_unexpected
  intro rows
  cases o <;> simp [rowList]

theorem reads_column (o : Output) :
    Reads o (fun vs => o = .rows (vs.map fun v => [v])) false o.column := by
  refine reads_list (fun vs => column_eq_ok_iff) ?_
  exact o.rowList_failsFor_unexpected.bind fun _ _ =>
    .mapM fun row _ => Row.single_failsFor_unexpected row

/-! ### One row at most -/

theorem oneRow_eq_ok_iff {o : Output} {row? : Option Row} :
    o.oneRow = .ok row? ↔ o.HasRow row? := by
  rcases o with (_ | ⟨row, _ | ⟨row', rows⟩⟩) | row
  all_goals cases row? <;> simp [oneRow, HasRow, eq_comm]

theorem oneRow_eq_error_iff {o : Output} {cause : QueryError} :
    o.oneRow = .error cause ↔ ∃ n, o.HasSeveral n ∧ cause = .severalRows n := by
  rcases o with (_ | ⟨row, _ | ⟨row', rows⟩⟩) | row
  all_goals simp [oneRow, HasSeveral, eq_comm]

/-- What is read from one row at most is what a reader of rows makes of it. -/
theorem reads_oneRow {α : Type} {o : Output} {Says : α → Prop}
    {read : Option Row → Except QueryError α}
    (says_iff : ∀ a, Says a ↔ ∃ row?, o.HasRow row? ∧ read row? = .ok a)
    (fails : ∀ row?, FailsFor QueryError.IsUnexpected (read row?)) :
    Reads o Says true (o.oneRow >>= read) := by
  cases h : o.oneRow with
  | ok row? =>
    -- Of one row or none only the reader can complain, and not of several rows.
    have hrow := oneRow_eq_ok_iff.1 h
    refine ⟨?_, ?_, fun cause hcause => .inr (fails row? cause hcause)⟩
    · intro a
      rw [says_iff]
      constructor
      · exact fun ha => ⟨row?, hrow, ha⟩
      · rintro ⟨row', hrow', ha⟩
        obtain rfl : row? = row' := Except.ok.inj (h.symm.trans (oneRow_eq_ok_iff.2 hrow'))
        exact ha
    · intro n
      constructor
      · intro hn
        exact absurd (fails row? _ hn) (QueryError.not_isUnexpected_severalRows n)
      · rintro ⟨-, several⟩
        cases h.symm.trans (oneRow_eq_error_iff.2 ⟨n, several, rfl⟩)
  | error cause =>
    -- Several rows are refused before the reader sees one.
    obtain ⟨m, several, rfl⟩ := oneRow_eq_error_iff.1 h
    refine ⟨?_, ?_, ?_⟩
    · intro a
      rw [says_iff]
      refine ⟨nofun, ?_⟩
      rintro ⟨row?, hrow, -⟩
      cases h.symm.trans (oneRow_eq_ok_iff.2 hrow)
    · intro n
      constructor
      · rintro ⟨⟩
        exact ⟨rfl, several⟩
      · rintro ⟨-, several'⟩
        cases h.symm.trans (oneRow_eq_error_iff.2 ⟨n, several', rfl⟩)
        rfl
    · rintro _ ⟨⟩
      exact .inl ⟨m, rfl⟩

theorem reads_single (o : Output) : Reads o o.SaysSingle true o.single := by
  refine reads_oneRow ?_ ?_
  · intro v?
    constructor
    · intro hv
      refine ⟨_, hv, ?_⟩
      cases v? <;> rfl
    · rintro ⟨_ | row, hrow, h⟩
      · cases h
        exact hrow
      · obtain ⟨v, hv, h⟩ := exists_of_bind_eq_ok h
        cases h
        rwa [Row.single_eq_ok_iff.1 hv] at hrow
  · rintro (_ | row)
    · exact .ok none
    · exact row.single_failsFor_unexpected.bind fun v _ => .ok (some v)

/-! ### Counts -/

/-- A word that is not negative is the same natural number with and without a sign. -/
theorem toUInt64_eq_iff {i : Int64} (h : 0 ≤ i) (n : UInt64) :
    i.toUInt64 = n ↔ i.toInt = n.toNat := by
  have nonneg : (0 : Int) ≤ i.toBitVec.toInt := Int64.le_iff_toInt_le.1 h
  have word : i.toInt = i.toUInt64.toNat := by
    have small : i.toBitVec.toNat < 2 ^ 64 := i.toBitVec.isLt
    have cond := BitVec.toInt_eq_toNat_cond i.toBitVec
    change i.toBitVec.toInt = i.toBitVec.toNat
    split at cond <;> omega
  rw [word, Int.natCast_inj, UInt64.toNat_inj]

theorem natural_eq_ok_iff {v : Value} {n : UInt64} : natural v = .ok n ↔ v.IsNatural n := by
  have word (i : Int64) : (if 0 ≤ i then .ok i.toUInt64 else .error .countNotNatural :
      Except QueryError UInt64) = .ok n ↔ i.toInt = n.toNat := by
    split
    · rename_i h
      rw [Except.ok.injEq, toUInt64_eq_iff h]
    · rename_i h
      rw [Int64.le_iff_toInt_le] at h
      have zero : (0 : Int64).toInt = 0 := rfl
      exact ⟨nofun, by omega⟩
  cases v with
  | int i => simp [natural, Value.asLong?, Value.IsNatural, word]
  | long i => simp [natural, Value.asLong?, Value.IsNatural, word]
  | _ => simp [natural, Value.asLong?, Value.IsNatural]

theorem natural_failsFor_unexpected (v : Value) :
    FailsFor QueryError.IsUnexpected (natural v) := by
  unfold natural
  split
  · split
    · exact .ok _
    · exact .error rfl
  · exact .error rfl

theorem reads_total (o : Output) : Reads o o.SaysTotal true o.total := by
  refine reads_oneRow ?_ ?_
  · intro n
    constructor
    · rintro ⟨v, hrow, hv⟩
      exact ⟨_, hrow, natural_eq_ok_iff.2 hv⟩
    · rintro ⟨_ | row, hrow, h⟩
      · cases h
      · obtain ⟨v, hv, hn⟩ := exists_of_bind_eq_ok h
        rw [Row.single_eq_ok_iff.1 hv] at hrow
        exact ⟨v, hrow, natural_eq_ok_iff.1 hn⟩
  · rintro (_ | row)
    · exact .error rfl
    · exact row.single_failsFor_unexpected.bind fun v _ => natural_failsFor_unexpected v

end Output

/-! ### Answers -/

namespace Session

variable {σ η : Type} (e : Engine σ η)

/-- The session plans, the engine runs the plan, and this is what it returns. -/
def Returns (s : Session η) (state : σ) (extra : List Expr) (mode : Mode) (o : Output) : Prop :=
  ∃ plan, (s.plan extra mode).1 = .ok plan ∧
    ((s.plan extra mode).2.execute e state plan).1 = .ok o

/-- What is returned is read. -/
theorem ask_of_returns {s : Session η} {state : σ} {extra : List Expr} {mode : Mode} {o : Output}
    {α : Type} {read : Output → Except QueryError α} (h : s.Returns e state extra mode o) :
    (s.ask e state extra mode read).1 = read o := by
  obtain ⟨plan, planned, returned⟩ := h
  unfold ask
  rcases hplan : s.plan extra mode with ⟨answer, t⟩
  rw [hplan] at planned returned
  obtain rfl : answer = .ok plan := planned
  change (t.execute e state plan).1 = .ok o at returned
  change (t.execute e state plan).1.bind read = read o
  rw [returned]
  rfl

/-- **No output is truncated or misread.** Take any session and any engine, and whatever output the
engine returns to the plan it is given. A list is answered exactly from rows of one value each, and
a list of rows exactly from rows. A single value, or none, and a count are answered exactly from
one row at most, in either form; several rows are a violation of cardinality that tells their
number. Everything else is unexpected output. -/
theorem answers_read_outputs (s : Session η) (state : σ) :
    (∀ x o, s.Returns e state [x] (.list s.clauses.window) o →
      Reads o (fun vs => o = .rows (vs.map fun v => [v])) false (s.list e state x).1) ∧
    (∀ xs o, s.Returns e state xs (.list s.clauses.window) o →
      Reads o (fun rows => o = .rows rows) false (s.listMany e state xs).1) ∧
    (∀ x o, s.Returns e state [x] .unique o →
      Reads o o.SaysSingle true (s.uniqueResult e state x).1) ∧
    ∀ o, s.Returns e state [] .count o → Reads o o.SaysTotal true (s.count e state).1 := by
  refine ⟨?_, ?_, ?_, ?_⟩
  · intro x o h
    rw [list, ask_of_returns e h]
    exact o.reads_column
  · intro xs o h
    rw [listMany, ask_of_returns e h]
    exact o.reads_rowList
  · intro x o h
    rw [uniqueResult, ask_of_returns e h]
    exact o.reads_single
  · intro o h
    rw [count, ask_of_returns e h]
    exact o.reads_total

/-! ### One row with the number three -/

/-- An engine that returns the same to every plan. -/
def replying (o : Output) : Engine Unit Unit where
  prepare _ state := (.ok (), state)
  configure _ _ state := state
  run _ _ state := (.ok o, state)
  release _ state := state

theorem returns_replying {s : Session Unit} {extra : List Expr} {mode : Mode} (o : Output)
    (h : (s.plan extra mode).1.isOk = true) : s.Returns (replying o) () extra mode o := by
  cases planned : (s.plan extra mode).1 with
  | error cause =>
    rw [planned] at h
    cases h
  | ok plan => exact ⟨plan, planned, rfl⟩

/-- A query for persons. -/
def ofPersons : Session Unit := (new .default).addSources [⟨"Person", "person"⟩]

theorem answers_read_three :
    let three := replying (.rows [[.int 3]])
    let age := Expr.path ⟨"person", ["age"]⟩
    ofPersons.Returns three () [age] .unique (.rows [[.int 3]]) ∧
      (ofPersons.list three () age).1 = .ok [.int 3] ∧
      (ofPersons.listMany three () [age]).1 = .ok [[.int 3]] ∧
      (ofPersons.uniqueResult three () age).1 = .ok (some (.int 3)) ∧
      (ofPersons.count three ()).1 = .ok 3 := by
  intro three age
  have returns (extra : List Expr) (mode : Mode) (h : (ofPersons.plan extra mode).1.isOk = true) :
      ofPersons.Returns three () extra mode (.rows [[.int 3]]) := returns_replying _ h
  have unique := returns [age] .unique (by decide +kernel)
  obtain ⟨list, listMany, single, count⟩ := answers_read_outputs three ofPersons ()
  refine ⟨unique, ?_, ?_, ?_, ?_⟩
  · exact ((list age _ (returns _ _ (by decide +kernel))).ok_iff _).2 rfl
  · exact ((listMany [age] _ (returns _ _ (by decide +kernel))).ok_iff _).2 rfl
  · exact ((single age _ unique).ok_iff _).2 (.inr rfl)
  · exact ((count _ (returns _ _ (by decide +kernel))).ok_iff _).2
      ⟨.int 3, .inr rfl, .inl ⟨3, rfl, rfl⟩⟩

end Session

end StoreQuery
