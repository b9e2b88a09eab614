import Mathlib.Data.List.Perm.Basic
import StoreQuery.Proofs.Config.Obtainable
import StoreQuery.Proofs.Text.ByteOrder

/-!
# Loading settings

Settings that are loaded are checked as a whole before any template is replaced. The same comes of
changing the default settings step by step: first the words, then the templates in ascending order
of the names.

* `ConfigText.ofEntries` : entries, each name once, in ascending order;
* `Config.stepwise` : the default settings, changed step by step;
* `Config.stepwise_perm` : **if all steps succeed, their order does not matter**;
* `Config.ofOverrides_stepwise` : **loading agrees with changing step by step**, also in the fault
  that is reported.
-/

namespace StoreQuery

/-! ### Entries in order -/

namespace ConfigText

/-- The entries in ascending order of the bytes of their names. -/
def Ascending (entries : List (String × String)) : Prop :=
  entries.Pairwise fun s t => Text.bytes s.1 < Text.bytes t.1

/-- Put entries in order, one after another. A name must not come twice. -/
def ofEntries (entries : List (String × String)) : Option (List (String × String)) :=
  entries.foldlM (fun sorted entry => insertEntry entry.1 entry.2 sorted) []

/-- An entry with a new name is put in its place. -/
theorem insertEntry_spec {name : String} (text : String) {entries : List (String × String)}
    (ascending : Ascending entries) (new : name ∉ entries.map (·.1)) :
    ∃ longer, insertEntry name text entries = some longer ∧
      longer.Perm ((name, text) :: entries) ∧ Ascending longer := by
  induction entries with
  | nil => exact ⟨_, rfl, .refl _, List.pairwise_singleton _ _⟩
  | cons entry entries ih =>
    obtain ⟨n, t⟩ := entry
    obtain ⟨first, rest⟩ := List.pairwise_cons.1 ascending
    rw [List.map_cons, List.mem_cons, not_or] at new
    unfold insertEntry
    by_cases before : name < n
    · -- What is less than the first name is less than all of them.
      rw [if_pos before]
      refine ⟨_, rfl, .refl _, List.pairwise_cons.2 ⟨?_, ascending⟩⟩
      have hn := Text.bytes_lt_bytes_iff.2 before
      rw [List.forall_mem_cons]
      exact ⟨hn, fun e he => List.lt_trans hn (first e he)⟩
    · obtain ⟨longer, hlonger, perm, sorted⟩ := ih rest new.2
      rw [if_neg before, if_neg new.1, hlonger]
      refine ⟨_, rfl, (perm.cons _).trans (.swap _ _ _), List.pairwise_cons.2 ⟨?_, sorted⟩⟩
      intro e he
      obtain rfl | he := List.mem_cons.1 (perm.mem_iff.1 he)
      · exact Text.bytes_lt_bytes_iff.2 (lt_of_le_of_ne (le_of_not_gt before) (Ne.symm new.1))
      · exact first e he

theorem foldlM_insertEntry {placed entries : List (String × String)} (ascending : Ascending placed)
    (distinct : ((placed ++ entries).map (·.1)).Nodup) : ∃ sorted,
    entries.foldlM (fun sorted entry => insertEntry entry.1 entry.2 sorted) placed = some sorted ∧
      sorted.Perm (placed ++ entries) ∧ Ascending sorted := by
  induction entries generalizing placed with
  | nil => exact ⟨placed, rfl, by simp, ascending⟩
  | cons entry entries ih =>
    obtain ⟨name, text⟩ := entry
    have moved : (placed ++ (name, text) :: entries).Perm ((name, text) :: placed ++ entries) :=
      List.perm_middle
    have distinct' := (moved.map (·.1)).nodup_iff.1 distinct
    have new : name ∉ placed.map (·.1) := by
      rw [List.cons_append, List.map_cons, List.nodup_cons, List.map_append, List.mem_append,
        not_or] at distinct'
      exact distinct'.1.1
    obtain ⟨longer, hlonger, perm, ascending'⟩ := insertEntry_spec text ascending new
    have same := perm.append_right entries
    obtain ⟨sorted, hsorted, perm', ascending''⟩ :=
      ih ascending' ((same.map (·.1)).nodup_iff.2 distinct')
    refine ⟨sorted, ?_, (perm'.trans same).trans moved.symm, ascending''⟩
    rw [List.foldlM_cons, hlonger]
    exact hsorted

/-- Entries can be put in order if no name comes twice. -/
theorem ofEntries_spec {entries : List (String × String)} (distinct : (entries.map (·.1)).Nodup) :
    ∃ sorted, ofEntries entries = some sorted ∧ sorted.Perm entries ∧ Ascending sorted :=
  foldlM_insertEntry .nil distinct

end ConfigText

/-! ### Step by step -/

theorem Operator.name_eq_of_ofName? {name : String} {op : Operator}
    (h : Operator.ofName? name = some op) : op.name = name := by
  simpa using List.find?_some h

/-- Templates of two operators are replaced in either order. -/
theorem Patterns.set_comm (P : Patterns) {op o : Operator} (h : op ≠ o) (t u : Template) :
    (P.set op t).set o u = (P.set o u).set op t := by
  simp only [Patterns.set, Patterns.mk.injEq]
  funext x
  by_cases hop : x = op
  · subst hop
    simp [h]
  · simp [hop]

namespace Config

/-- The default settings, changed step by step: first both words, where one that is not given is
the default one, then the templates in the order of the entries. -/
def stepwise (group column : Option String) (entries : List (String × String)) :
    Except ConfigError Config := do
  let c ← default.withWords (group.getD default.groupWord) (column.getD default.columnWord)
  entries.foldlM (fun c entry => c.withNamedTemplate entry.1 entry.2) c

/-- What a step does that succeeds. -/
theorem withNamedTemplate_eq_ok {c c' : Config} {name source : String}
    (h : c.withNamedTemplate name source = .ok c') : ∃ op t, op.name = name ∧
      Patterns.check op source = .ok t ∧ c' = { c with patterns := c.patterns.set op t } := by
  unfold withNamedTemplate at h
  split at h
  · rename_i op hop
    obtain ⟨t, check, rfl⟩ := withTemplate_eq_ok h
    exact ⟨op, t, Operator.name_eq_of_ofName? hop, check, rfl⟩
  · cases h

theorem withNamedTemplate_name {op : Operator} {source : String} {t : Template}
    (check : Patterns.check op source = .ok t) (c : Config) :
    c.withNamedTemplate op.name source = .ok { c with patterns := c.patterns.set op t } := by
  rw [withNamedTemplate, Operator.ofName?_name]
  dsimp only
  rw [withTemplate, Patterns.override, check]
  rfl

/-- Two steps for different names can change places. -/
theorem withNamedTemplate_comm {c c₁ c₂ : Config} {s t : String × String} (names : s.1 ≠ t.1)
    (hs : c.withNamedTemplate s.1 s.2 = .ok c₁) (ht : c₁.withNamedTemplate t.1 t.2 = .ok c₂) :
    ∃ c', c.withNamedTemplate t.1 t.2 = .ok c' ∧ c'.withNamedTemplate s.1 s.2 = .ok c₂ := by
  obtain ⟨op, u, hop, checkS, rfl⟩ := withNamedTemplate_eq_ok hs
  obtain ⟨o, v, ho, checkT, rfl⟩ := withNamedTemplate_eq_ok ht
  have differ : op ≠ o := by
    rintro rfl
    exact names (hop.symm.trans ho)
  rw [← hop, ← ho]
  refine ⟨_, withNamedTemplate_name checkT c, ?_⟩
  rw [withNamedTemplate_name checkS, Patterns.set_comm _ differ]

/-- If all steps succeed, they do so in any order, and the settings are the same. -/
theorem foldlM_perm {entries order : List (String × String)} (perm : entries.Perm order)
    (distinct : (entries.map (·.1)).Nodup) {c c' : Config}
    (h : entries.foldlM (fun c entry => c.withNamedTemplate entry.1 entry.2) c = .ok c') :
    order.foldlM (fun c entry => c.withNamedTemplate entry.1 entry.2) c = .ok c' := by
  -- Only for two neighbours that change places something is to be shown.
  induction perm generalizing c with
  | nil => exact h
  | cons entry _ ih =>
    rw [List.map_cons, List.nodup_cons] at distinct
    rw [List.foldlM_cons] at h ⊢
    obtain ⟨c₁, hc₁, h⟩ := exists_of_bind_eq_ok h
    rw [hc₁]
    exact ih distinct.2 h
  | swap t s entries =>
    have names : s.1 ≠ t.1 := by
      rintro heq
      simp [heq] at distinct
    rw [List.foldlM_cons] at h
    obtain ⟨c₁, hc₁, h⟩ := exists_of_bind_eq_ok h
    rw [List.foldlM_cons] at h
    obtain ⟨c₂, hc₂, h⟩ := exists_of_bind_eq_ok h
    obtain ⟨d, hd, hd'⟩ := withNamedTemplate_comm names hc₁ hc₂
    rw [List.foldlM_cons, hd]
    change List.foldlM _ d _ = _
    rw [List.foldlM_cons, hd']
    exact h
  | trans perm _ ih ih' => exact ih' ((perm.map (·.1)).nodup_iff.1 distinct) (ih distinct h)

/-- **If all steps succeed, their order does not matter.** -/
theorem stepwise_perm {group column : Option String} {entries order : List (String × String)}
    (perm : entries.Perm order) (distinct : (entries.map (·.1)).Nodup) {c : Config}
    (h : stepwise group column entries = .ok c) : stepwise group column order = .ok c := by
  obtain ⟨worded, hworded, h⟩ := exists_of_bind_eq_ok h
  rw [stepwise, hworded]
  exact foldlM_perm perm distinct h

/-- **Loading settings agrees with changing them step by step.** Let templates be given for some
names, each once, and let them be put in order. Then loading gives the same settings, or is refused
for the same cause, as changing the words of the default settings and then the templates in
ascending order of the bytes of their names; a name that no operator has is refused at its turn. If
loading succeeds, the templates may be replaced in any other order. -/
theorem ofOverrides_stepwise (group column : Option String) (entries : List (String × String))
    (distinct : (entries.map (·.1)).Nodup) :
    ∃ sorted, ConfigText.ofEntries entries = some sorted ∧ sorted.Perm entries ∧
      ConfigText.Ascending sorted ∧
      ofOverrides ⟨group, column, sorted⟩ = stepwise group column sorted ∧
      ∀ c, ofOverrides ⟨group, column, sorted⟩ = .ok c → ∀ order : List (String × String),
        order.Perm entries → stepwise group column order = .ok c := by
  obtain ⟨sorted, hsorted, perm, ascending⟩ := ConfigText.ofEntries_spec distinct
  have agree : ofOverrides ⟨group, column, sorted⟩ = stepwise group column sorted :=
    ofOverrides_eq _
  refine ⟨sorted, hsorted, perm, ascending, agree, ?_⟩
  intro c hc order horder
  exact stepwise_perm (perm.trans horder.symm) ((perm.map (·.1)).nodup_iff.2 distinct)
    (agree ▸ hc)

/-- Three templates, out of order. -/
def unordered : List (String × String) :=
  [("not", "no \x7b0\x7d"), ("matches", "\x7b0\x7d.like(\x7b1\x7d)"),
    ("and", "\x7b0\x7d & \x7b1\x7d")]

/-- Two faults, out of order. -/
def faulty : List (String × String) := [("xor", "\x7b0\x7d ^ \x7b1\x7d"), ("not", "!\x7b2\x7d")]

theorem ofOverrides_stepwise_unordered :
    (∃ c, ofOverrides ⟨none, some "col", unordered.reverse⟩ = .ok c ∧
      stepwise none (some "col") unordered = .ok c) ∧
    ofOverrides ⟨none, none, faulty.reverse⟩ =
      .error (.invalidTemplate .not (.beyondArity .not 2)) ∧
    stepwise none none faulty.reverse = .error (.invalidTemplate .not (.beyondArity .not 2)) ∧
    stepwise none none faulty = .error (.unknownOperator "xor") := by
  obtain ⟨sorted, hsorted, -, -, -, orders⟩ :=
    ofOverrides_stepwise none (some "col") unordered (by decide)
  have order : ConfigText.ofEntries unordered = some unordered.reverse := by decide +kernel
  obtain rfl : unordered.reverse = sorted := Option.some.inj (order.symm.trans hsorted)
  obtain ⟨faults, hfaults, -, -, agree, -⟩ := ofOverrides_stepwise none none faulty (by decide)
  have order' : ConfigText.ofEntries faulty = some faulty.reverse := by decide +kernel
  obtain rfl : faulty.reverse = faults := Option.some.inj (order'.symm.trans hfaults)
  have loaded : ∃ c, ofOverrides ⟨none, some "col", unordered.reverse⟩ = .ok c := ⟨_, rfl⟩
  have refused : ofOverrides ⟨none, none, faulty.reverse⟩ =
      .error (.invalidTemplate .not (.beyondArity .not 2)) := rfl
  obtain ⟨c, hc⟩ := loaded
  exact ⟨⟨c, hc, orders c hc unordered (.refl _)⟩, refused, agree.symm.trans refused, rfl⟩

end Config

end StoreQuery
