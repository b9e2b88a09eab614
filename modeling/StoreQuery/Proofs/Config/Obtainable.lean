import StoreQuery.Config
import StoreQuery.Proofs.Steps

/-!
# Settings that can be had

Settings are the default ones, changed step by step, or they are read from a text. Either way the
words for labels are checked.

* `Config.Obtainable` : the settings are made in one of these ways;
* `Config.Obtainable.accepted_induction` : in each of them only templates and words that are
  accepted are put in;
* `Config.Obtainable.wordsValid` : **their words are two different identifiers.**
-/

namespace StoreQuery

namespace Config

/-- The settings are the default ones or made by a change that was not refused, or they were
read. -/
inductive Obtainable : Config → Prop where
  | default : Obtainable .default
  | withTemplate {c c' : Config} {op : Operator} {source : String} (h : Obtainable c)
      (changed : c.withTemplate op source = .ok c') : Obtainable c'
  | withNamedTemplate {c c' : Config} {name source : String} (h : Obtainable c)
      (changed : c.withNamedTemplate name source = .ok c') : Obtainable c'
  | withWords {c c' : Config} {group column : String} (h : Obtainable c)
      (changed : c.withWords group column = .ok c') : Obtainable c'
  | ofText {c : Config} {text : String} (read : Config.ofText text = .ok c) : Obtainable c
  | ofBytes {c : Config} {bytes : Option ByteArray} (read : Config.ofBytes bytes = .ok c) :
      Obtainable c

/-- The words for labels are two different identifiers. -/
structure WordsValid (c : Config) : Prop where
  /-- The word for groups is an identifier. -/
  group : isIdentifier c.groupWord = true
  /-- The word for columns is an identifier. -/
  column : isIdentifier c.columnWord = true
  /-- They differ. -/
  differ : c.groupWord ≠ c.columnWord

theorem checkWords_eq_ok_iff {group column : String} : checkWords group column = .ok () ↔
    isIdentifier group = true ∧ isIdentifier column = true ∧ group ≠ column := by
  unfold checkWords
  by_cases hgroup : isIdentifier group = true
  · by_cases hcolumn : isIdentifier column = true
    · by_cases hsame : group = column <;> simp [hgroup, hcolumn, hsame]
    · simp [hgroup, hcolumn]
  · simp [hgroup]

/-! ### Settings are made of what is accepted -/

theorem withNamedTemplate_eq (c : Config) (name source : String) :
    c.withNamedTemplate name source =
      (resolve name source).map fun r => { c with patterns := c.patterns.set r.1 r.2 } := by
  unfold withNamedTemplate withTemplate resolve Patterns.override
  cases Operator.ofName? name with
  | none => rfl
  | some op => cases h : Patterns.check op source <;> simp [h, Except.map]

/-- Replacing templates once all are found valid is replacing them one after another. -/
theorem mapM_resolve_eq_foldlM (entries : List (String × String)) (c : Config) :
    (entries.mapM fun t => resolve t.1 t.2).map
        (fun replaced => { c with patterns := c.patterns.setAll replaced }) =
      entries.foldlM (fun c t => c.withNamedTemplate t.1 t.2) c := by
  induction entries generalizing c with
  | nil => rfl
  | cons entry entries ih =>
    rw [List.mapM_cons, List.foldlM_cons, withNamedTemplate_eq]
    cases resolve entry.1 entry.2 with
    | error cause => rfl
    | ok r =>
      refine Eq.trans ?_ (ih { c with patterns := c.patterns.set r.1 r.2 })
      cases entries.mapM fun t => resolve t.1 t.2 <;> rfl

/-- Settings that are read are the default ones with other words and then the templates, one after
another. -/
theorem ofOverrides_eq (o : ConfigText.Overrides) :
    ofOverrides o =
      (default.withWords (o.groupWord.getD default.groupWord)
        (o.columnWord.getD default.columnWord)).bind
        (o.templates.foldlM fun c t => c.withNamedTemplate t.1 t.2) := by
  simp only [ofOverrides, withWords]
  cases checkWords (o.groupWord.getD default.groupWord) (o.columnWord.getD default.columnWord) with
  | error cause => rfl
  | ok =>
    refine Eq.trans ?_ (mapM_resolve_eq_foldlM o.templates _)
    change ((o.templates.mapM fun t => resolve t.1 t.2) >>= _) = _
    cases o.templates.mapM fun t => resolve t.1 t.2 <;> rfl

theorem withTemplate_eq_ok {c c' : Config} {op : Operator} {source : String}
    (h : c.withTemplate op source = .ok c') :
    ∃ t, Patterns.check op source = .ok t ∧ c' = { c with patterns := c.patterns.set op t } := by
  unfold withTemplate Patterns.override at h
  cases check : Patterns.check op source with
  | ok t =>
    rw [check] at h
    cases h
    exact ⟨t, rfl, rfl⟩
  | error cause =>
    rw [check] at h
    cases h

theorem withWords_eq_ok {c c' : Config} {group column : String}
    (h : c.withWords group column = .ok c') : checkWords group column = .ok () ∧
      c' = { c with groupWord := group, columnWord := column } := by
  unfold withWords at h
  cases check : checkWords group column with
  | ok =>
    rw [check] at h
    cases h
    exact ⟨rfl, rfl⟩
  | error cause =>
    rw [check] at h
    cases h

/-- What holds of the default settings and is kept by templates and words that are accepted holds of
all settings that can be had. -/
theorem Obtainable.accepted_induction {motive : Config → Prop} (default : motive .default)
    (withTemplate : ∀ (c : Config) {op : Operator} {source : String} {t : Template}, motive c →
      Patterns.check op source = .ok t → motive { c with patterns := c.patterns.set op t })
    (withWords : ∀ (c : Config) {group column : String}, motive c →
      checkWords group column = .ok () →
      motive { c with groupWord := group, columnWord := column })
    {c : Config} (h : c.Obtainable) : motive c := by
  have template {c c' : Config} {op : Operator} {source : String} (hc : motive c)
      (h : c.withTemplate op source = .ok c') : motive c' := by
    obtain ⟨t, check, rfl⟩ := withTemplate_eq_ok h
    exact withTemplate c hc check
  have named {c c' : Config} {name source : String} (hc : motive c)
      (h : c.withNamedTemplate name source = .ok c') : motive c' := by
    unfold Config.withNamedTemplate at h
    split at h
    · exact template hc h
    · cases h
  have words {c c' : Config} {group column : String} (hc : motive c)
      (h : c.withWords group column = .ok c') : motive c' := by
    obtain ⟨check, rfl⟩ := withWords_eq_ok h
    exact withWords c hc check
  -- A text is read as words and then templates, each of which must be accepted.
  have text {text : String} {c : Config} (h : Config.ofText text = .ok c) : motive c := by
    unfold Config.ofText at h
    split at h
    · rw [ofOverrides_eq] at h
      obtain ⟨worded, hworded, h⟩ := exists_of_bind_eq_ok h
      exact of_foldlM_eq_ok named (words default hworded) h
    · cases h
  induction h with
  | default => exact default
  | withTemplate _ changed ih => exact template ih changed
  | withNamedTemplate _ changed ih => exact named ih changed
  | withWords _ changed ih => exact words ih changed
  | ofText read => exact text read
  | ofBytes read =>
    unfold Config.ofBytes at read
    split at read
    · exact text read
    · cases read

/-- **The words of settings are two different identifiers**, however they were had. -/
theorem Obtainable.wordsValid {c : Config} (h : c.Obtainable) : c.WordsValid := by
  refine h.accepted_induction ?default ?withTemplate ?withWords
  case default => exact ⟨by decide, by decide, by decide⟩
  case withTemplate =>
    intro c op source t hc _
    exact ⟨hc.group, hc.column, hc.differ⟩
  case withWords =>
    intro c group column _ check
    obtain ⟨hgroup, hcolumn, hdiffer⟩ := checkWords_eq_ok_iff.1 check
    exact ⟨hgroup, hcolumn, hdiffer⟩

end Config

end StoreQuery
