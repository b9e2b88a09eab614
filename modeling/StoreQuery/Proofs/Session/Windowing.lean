import Mathlib.Data.List.Induction
import StoreQuery.Proofs.Parameters.Parts
import StoreQuery.Proofs.Session.Runs

/-!
# Skip, then take

The window of a session is what its calls set last. A plan for a list turns it into a range of row
indices whose bounds are words, so that the sum of the offset and the limit may not fit. It is cut
off then, and no list of rows is long enough to tell.

* `Window.toNat_saturatingAdd` : the sum is cut off at the greatest word;
* `rowsWithin`, `Window.select` : the rows with indices in a range, and the rows that are left by
  skipping and taking;
* `Window.rowsWithin_range` : they are the same;
* `Session.window_run` : the window holds the limit and the offset that were set last;
* `Session.rows_skipped_and_taken` : **a list is its rows without the first ones, up to the limit.**
-/

namespace StoreQuery

/-! ### Ranges of rows -/

/-- The rows whose index lies from the first bound to before the second. Without a range these are
all rows. -/
def rowsWithin {α : Type} (range : Option (UInt64 × UInt64)) (rows : List α) : List α :=
  match range with
  | some (start, stop) => (rows.zipIdx.filter fun row =>
      start.toNat ≤ row.2 && row.2 < stop.toNat).map (·.1)
  | none => rows

theorem map_filter_zipIdx {α : Type} (rows : List α) (start stop first : Nat) :
    ((rows.zipIdx first).filter fun row => start ≤ row.2 && row.2 < stop).map (·.1) =
      (rows.take (stop - first)).drop (start - first) := by
  induction rows generalizing first with
  | nil => simp
  | cons row rows ih =>
    rw [List.zipIdx_cons, List.filter_cons]
    rcases Nat.lt_or_ge first stop with hstop | hstop
    · obtain ⟨n, hn⟩ : ∃ n, stop - first = n + 1 := ⟨stop - (first + 1), by omega⟩
      have after : stop - (first + 1) = n := by omega
      rcases Nat.lt_or_ge first start with hstart | hstart
      · obtain ⟨m, hm⟩ : ∃ m, start - first = m + 1 := ⟨start - (first + 1), by omega⟩
        have after' : start - (first + 1) = m := by omega
        simp [Nat.not_le.2 hstart, ih, hn, hm, after, after']
      · have before : start - first = 0 := by omega
        have before' : start - (first + 1) = 0 := by omega
        simp [hstart, hstop, ih, hn, before, before', after]
    · have none_left : stop - first = 0 := by omega
      have none_left' : stop - (first + 1) = 0 := by omega
      simp [Nat.not_lt.2 hstop, ih, none_left, none_left']

namespace Window

theorem toNat_le_unbounded (n : UInt64) : n.toNat ≤ unbounded.toNat := Nat.le_of_lt_succ n.toNat_lt

/-- The sum is cut off at the greatest word. -/
theorem toNat_saturatingAdd (a b : UInt64) :
    (saturatingAdd a b).toNat = min (a.toNat + b.toNat) unbounded.toNat := by
  have ha := toNat_le_unbounded a
  have room : (unbounded - a).toNat = unbounded.toNat - a.toNat :=
    UInt64.toNat_sub_of_le _ _ (UInt64.le_iff_toNat_le.2 ha)
  unfold saturatingAdd
  split
  · rename_i h
    rw [UInt64.lt_iff_toNat_lt, room] at h
    omega
  · rename_i h
    rw [UInt64.lt_iff_toNat_lt, room] at h
    have fits : a.toNat + b.toNat ≤ unbounded.toNat := by omega
    rw [UInt64.toNat_add, Nat.min_eq_left fits]
    exact Nat.mod_eq_of_lt (Nat.lt_succ_of_le fits)

/-- The rows that are left when the first are skipped and no more than the limit are taken. -/
def select {α : Type} (w : Window) (rows : List α) : List α :=
  let rest := rows.drop (w.offset.getD 0).toNat
  match w.limit with
  | some n => rest.take n.toNat
  | none => rest

theorem range_eq_none_iff {w : Window} : w.range = none ↔ w.limit = none ∧ w.offset = none := by
  rcases w with ⟨_ | limit, _ | offset⟩ <;> simp [range, isRestricting]

/-- The bounds of a range are in order. -/
theorem start_le_stop {w : Window} {start stop : UInt64} (h : w.range = some (start, stop)) :
    start ≤ stop := by
  have hstart := toNat_le_unbounded start
  rw [UInt64.le_iff_toNat_le]
  unfold range at h
  split at h
  · obtain ⟨rfl, rfl⟩ := Prod.mk.inj (Option.some.inj h)
    cases w.limit with
    | some n =>
      rw [toNat_saturatingAdd]
      omega
    | none => exact hstart
  · cases h

/-- The rows with indices in the range are those that are left by skipping and taking. -/
theorem rowsWithin_range {α : Type} (w : Window) {rows : List α}
    (h : rows.length ≤ unbounded.toNat) :
    rowsWithin w.range rows = w.select rows := by
  have within (start stop : UInt64) : rowsWithin (some (start, stop)) rows =
      (rows.drop start.toNat).take (stop.toNat - start.toNat) := by
    rw [rowsWithin, map_filter_zipIdx, List.drop_take]
    rfl
  rcases w with ⟨_ | limit, offset⟩
  · cases offset with
    | none => rfl
    | some start =>
      refine (within start unbounded).trans (List.take_of_length_le ?_)
      rw [List.length_drop]
      omega
  · have rest : (rows.drop (offset.getD 0).toNat).length = rows.length - (offset.getD 0).toNat :=
      List.length_drop
    refine (within (offset.getD 0) (saturatingAdd (offset.getD 0) limit)).trans
      (List.take_eq_take_iff.2 ?_)
    -- Where the sum is cut off, no row is left behind it.
    rw [rest, toNat_saturatingAdd]
    omega

end Window

/-! ### What is set last -/

namespace Call

/-- The call changes the window and nothing else, or drops all clauses. -/
def isWindowing : Call → Bool
  | .limit _ | .offset _ | .restrict _ | .clear => true
  | _ => false

/-- What a call sets the limit to, if it sets it. -/
def limitSet? : Call → Option (Option UInt64)
  | .limit n => some (some n)
  | .restrict window => some window.limit
  | .clear => some none
  | _ => none

/-- What a call sets the offset to, if it sets it. -/
def offsetSet? : Call → Option (Option UInt64)
  | .offset n => some (some n)
  | .restrict window => some window.offset
  | .clear => some none
  | _ => none

/-- What calls set last, and nothing if they do not set it. -/
def lastSet (set? : Call → Option (Option UInt64)) (calls : List Call) : Option UInt64 :=
  (calls.reverse.findSome? set?).getD none

theorem lastSet_snoc (set? : Call → Option (Option UInt64)) (calls : List Call) (call : Call) :
    lastSet set? (calls ++ [call]) = (set? call).getD (lastSet set? calls) := by
  simp only [lastSet, List.reverse_append, List.reverse_singleton, List.singleton_append,
    List.findSome?_cons]
  cases set? call <;> rfl

theorem window_clausesAfter (c : Clauses) (call : Call) :
    (call.clausesAfter c).window =
      ⟨call.limitSet?.getD c.window.limit, call.offsetSet?.getD c.window.offset⟩ := by
  cases call with
  | having x =>
    simp only [clausesAfter, Clauses.addHaving]
    split <;> rfl
  | _ => rfl

theorem window_foldl_clausesAfter (calls : List Call) :
    (calls.foldl clausesAfter .empty).window =
      ⟨lastSet limitSet? calls, lastSet offsetSet? calls⟩ := by
  induction calls using List.reverseRecOn with
  | nil => rfl
  | append_singleton calls call ih =>
    rw [List.foldl_concat, window_clausesAfter, ih, lastSet_snoc, lastSet_snoc]

/-- Calls that change the window change no other clause. -/
theorem foldl_clausesAfter_windowing {calls : List Call}
    (h : ∀ call ∈ calls, call.isWindowing = true) (window : Window) :
    ∃ window', calls.foldl clausesAfter (Clauses.empty.setWindow window) =
      Clauses.empty.setWindow window' := by
  induction calls generalizing window with
  | nil => exact ⟨window, rfl⟩
  | cons call calls ih =>
    rw [List.forall_mem_cons] at h
    obtain ⟨window', hcall⟩ : ∃ window', call.clausesAfter (Clauses.empty.setWindow window) =
        Clauses.empty.setWindow window' := by
      cases call <;> first | exact ⟨_, rfl⟩ | exact absurd h.1 Bool.false_ne_true
    rw [List.foldl_cons, hcall]
    exact ih h.2 window'

theorem foldl_sourcesAfter_windowing {calls : List Call}
    (h : ∀ call ∈ calls, call.isWindowing = true) (sources : List Source) :
    calls.foldl sourcesAfter sources = sources := by
  induction calls with
  | nil => rfl
  | cons call calls ih =>
    rw [List.forall_mem_cons] at h
    have kept : call.sourcesAfter sources = sources := by
      cases call <;> first | rfl | exact absurd h.1 Bool.false_ne_true
    rw [List.foldl_cons, kept]
    exact ih h.2

end Call

/-! ### Plans for a list -/

theorem range_planOf {config : Config} {sources : List Source} {c : Clauses} {extra : List Expr}
    {window : Window} {plan : Plan}
    (h : planOf config sources c extra (.list window) = .ok plan) : plan.range = window.range := by
  obtain ⟨f, filter, -, -, h⟩ := planOf_eq_ok h
  obtain ⟨⟨grouping, grouped⟩, -, h⟩ := exists_of_bind_eq_ok h
  obtain ⟨⟨shape, merged⟩, hshape, h⟩ := exists_of_bind_eq_ok h
  obtain ⟨⟨rows, merged'⟩, hrows, hshape⟩ := exists_of_bind_eq_ok hshape
  obtain ⟨⟨result, parameters⟩, -, hrows⟩ := exists_of_bind_eq_ok hrows
  obtain ⟨ordering, -, hrows⟩ := exists_of_bind_eq_ok hrows
  cases hrows
  cases hshape
  cases h
  rfl

theorem exists_planOf_setWindow (config : Config) (source : Source) (sources : List Source)
    (window window' : Window) : ∃ plan,
      planOf config (source :: sources) (Clauses.empty.setWindow window) [] (.list window') =
        .ok plan :=
  ⟨_, rfl⟩

namespace Session

variable {σ η : Type} (e : Engine σ η)

/-- The window holds the limit and the offset that were set last. -/
theorem window_run (config : Config) (calls : List Call) (state : σ) :
    (run e calls (new config, state)).1.clauses.window =
      ⟨Call.lastSet Call.limitSet? calls, Call.lastSet Call.offsetSet? calls⟩ := by
  rw [(run_spec e calls (new config) state).2.2.1]
  exact Call.window_foldl_clausesAfter calls

/-- A session with a source, of which only the window was changed, can be planned. -/
theorem exists_plan_windowing (config : Config) (source : Source) (sources : List Source)
    {calls : List Call} (h : ∀ call ∈ calls, call.isWindowing = true) (state : σ)
    (window : Window) : ∃ plan,
      ((run e (.addSources (source :: sources) :: calls) (new config, state)).1.plan []
        (.list window)).1 = .ok plan := by
  obtain ⟨-, hsources, hclauses, -⟩ :=
    run_spec e (.addSources (source :: sources) :: calls) (new config) state
  obtain ⟨window', unchanged⟩ := Call.foldl_clausesAfter_windowing h .all
  rw [plan_run, hsources, hclauses, List.foldl_cons, List.foldl_cons,
    Call.foldl_sourcesAfter_windowing h]
  show ∃ plan, planOf config (source :: sources)
    (calls.foldl Call.clausesAfter (Clauses.empty.setWindow .all)) [] _ = .ok plan
  rw [unchanged]
  exact exists_planOf_setWindow config source sources window' window

/-- **A list is its rows without the first ones, up to the limit.** After calls that set nothing but
the window a list can be planned. After any calls, if it is planned, the range has its bounds in
order, is there if the limit or the offset is set, and holds the rows that are left when as many as
the offset that was set last are skipped and as many as the limit that was set last are taken. -/
theorem rows_skipped_and_taken (config : Config) (calls : List Call) (state : σ) :
    (∀ source sources, (∀ call ∈ calls, call.isWindowing = true) → ∃ plan,
      let s := (run e (.addSources (source :: sources) :: calls) (new config, state)).1
      (s.plan [] (.list s.clauses.window)).1 = .ok plan) ∧
    let s := (run e calls (new config, state)).1
    let limit := Call.lastSet Call.limitSet? calls
    let offset := Call.lastSet Call.offsetSet? calls
    ∀ extra plan, (s.plan extra (.list s.clauses.window)).1 = .ok plan →
      (plan.range = none ↔ limit = none ∧ offset = none) ∧
      (∀ start stop, plan.range = some (start, stop) → start ≤ stop) ∧
      ∀ {α : Type} (rows : List α), rows.length ≤ Window.unbounded.toNat →
        rowsWithin plan.range rows = Window.select ⟨limit, offset⟩ rows := by
  constructor
  · intro source sources h
    exact exists_plan_windowing e config source sources h state _
  · intro s limit offset extra plan h
    have window : s.clauses.window = ⟨limit, offset⟩ := window_run e config calls state
    have range : plan.range = Window.range ⟨limit, offset⟩ := by
      rw [← window]
      exact range_planOf ((plan_run e config calls state extra _).symm.trans h)
    rw [range]
    exact ⟨Window.range_eq_none_iff, fun start stop => Window.start_le_stop,
      fun rows hrows => Window.rowsWithin_range _ hrows⟩

/-! A limit that does not fit behind the offset -/

/-- Set both bounds, drop them, and set them again, the limit to the greatest word. -/
def rewindowed : List Call :=
  [.restrict ⟨some 2, some 0⟩, .clear, .limit 7, .offset 1, .limit 0xFFFFFFFFFFFFFFFF]

theorem rows_skipped_and_taken_rewindowed :
    let s := (run refusing (.addSources [⟨"Person", "person"⟩] :: rewindowed)
      (new .default, ())).1
    ∃ plan, (s.plan [] (.list s.clauses.window)).1 = .ok plan ∧
      plan.range = some (1, 0xFFFFFFFFFFFFFFFF) ∧
      rowsWithin plan.range ["Ada", "Grace", "Alan"] = ["Grace", "Alan"] := by
  intro s
  obtain ⟨plan, h⟩ := (rows_skipped_and_taken refusing .default rewindowed ()).1
    ⟨"Person", "person"⟩ [] (by decide)
  have selected := (rows_skipped_and_taken refusing .default
    (.addSources [⟨"Person", "person"⟩] :: rewindowed) ()).2 [] plan h
  have range : plan.range = Window.range ⟨some 0xFFFFFFFFFFFFFFFF, some 1⟩ :=
    range_planOf ((plan_run refusing .default _ () [] _).symm.trans h)
  exact ⟨plan, h, range.trans rfl, (selected.2.2 _ (by decide)).trans rfl⟩

end Session

end StoreQuery
