import StoreQuery.Assembly

/-!
# Paths that are written alike

Properties of the candidate are written bare, all other paths with their variable, and the candidate
itself as `this`. The three share one text, so that different paths may be written alike: a property
of the candidate and a variable of the same name, and whatever is called `this`.

* `Pass.pathNames` : the names that a path is written with, points between;
* `Path.Confused` : the pairs of different paths that are written alike;
* `Pass.pathText_eq_iff` : **two paths are written alike exactly if they are the same path or such
  a pair**;
* `Pass.property_written_like_variable` : `person.address` and `address` are both written as
  `address`.
-/

namespace StoreQuery

namespace Path

/-- No name has a point in it. -/
def Plain (q : Path) : Prop := ∀ name ∈ q.root :: q.segments, '.' ∉ name.toList

instance : DecidablePred Plain := fun q =>
  inferInstanceAs (Decidable (∀ name ∈ q.root :: q.segments, '.' ∉ name.toList))

/-- Two different paths that are written alike. The first of them begins at the candidate. -/
inductive Confused (candidate : Source) (others : List Source) : Path → Path → Prop where
  /-- A property of the candidate has the name of another variable. -/
  | namedAlike {name : String} {segments : List String} (h : name ∈ others.map (·.var)) :
      Confused candidate others ⟨candidate.var, name :: segments⟩ ⟨name, segments⟩
  /-- A property of the candidate is called `this`. -/
  | propertyThis : Confused candidate others ⟨candidate.var, []⟩ ⟨candidate.var, ["this"]⟩
  /-- Another variable is called `this`. -/
  | variableThis (h : "this" ∈ others.map (·.var)) :
      Confused candidate others ⟨candidate.var, []⟩ ⟨"this", []⟩

end Path

namespace Pass

variable (p : Pass)

/-! ### Names of a path -/

/-- The names that a path is written with. -/
def pathNames (q : Path) : List String :=
  if q.root ≠ p.candidate.var then q.root :: q.segments
  else if q.isRoot then ["this"]
  else q.segments

theorem pathText_eq_intercalate (q : Path) : p.pathText q = ".".intercalate (p.pathNames q) := by
  unfold pathText pathNames
  split
  · rfl
  split <;> simp

theorem pathNames_of_other {q : Path} (h : q.root ≠ p.candidate.var) :
    p.pathNames q = q.root :: q.segments := if_pos h

theorem pathNames_candidate : p.pathNames ⟨p.candidate.var, []⟩ = ["this"] := by
  simp [pathNames, Path.isRoot]

theorem pathNames_property (name : String) (segments : List String) :
    p.pathNames ⟨p.candidate.var, name :: segments⟩ = name :: segments := by
  simp [pathNames, Path.isRoot]

theorem pathNames_ne_nil (q : Path) : p.pathNames q ≠ [] := by
  unfold pathNames
  split
  · exact List.cons_ne_nil _ _
  split
  · exact List.cons_ne_nil _ _
  · rename_i h
    simpa [Path.isRoot] using h

theorem point_not_mem_pathNames {q : Path} (h : q.Plain) {name : String}
    (hname : name ∈ p.pathNames q) : '.' ∉ name.toList := by
  unfold pathNames at hname
  split at hname
  · exact h name hname
  split at hname
  · obtain rfl := List.mem_singleton.1 hname
    decide
  · exact h name (List.mem_cons_of_mem _ hname)

/-- The text of a path falls into its names. -/
theorem splitOn_pathText {q : Path} (h : q.Plain) :
    (p.pathText q).toList.splitOn '.' = (p.pathNames q).map String.toList := by
  rw [pathText_eq_intercalate, String.toList_intercalate]
  refine List.splitOn_intercalate '.' ?_ (by simpa using p.pathNames_ne_nil q)
  intro chars hchars
  obtain ⟨name, hname, rfl⟩ := List.mem_map.1 hchars
  exact p.point_not_mem_pathNames h hname

theorem pathText_eq_iff_pathNames_eq {q r : Path} (hq : q.Plain) (hr : r.Plain) :
    p.pathText q = p.pathText r ↔ p.pathNames q = p.pathNames r := by
  constructor
  · intro h
    have split : (p.pathNames q).map String.toList = (p.pathNames r).map String.toList := by
      rw [← p.splitOn_pathText hq, ← p.splitOn_pathText hr, h]
    exact (List.map_inj_right fun _ _ => String.toList_inj.1).1 split
  · intro h
    rw [pathText_eq_intercalate, pathText_eq_intercalate, h]

/-! ### Paths with the same names -/

section Sources

variable {others : List Source} {q r : Path}

/-- Only a path of the candidate can be written like one of another source. -/
theorem confused_of_other (hq : q.root = p.candidate.var) (hr : r.root ∈ others.map (·.var))
    (hne : r.root ≠ p.candidate.var) (h : p.pathNames q = p.pathNames r) :
    Path.Confused p.candidate others q r := by
  obtain ⟨_, segments⟩ := q
  obtain ⟨root, rest⟩ := r
  subst hq
  rw [p.pathNames_of_other hne] at h
  cases segments with
  | nil =>
    rw [pathNames_candidate] at h
    obtain ⟨rfl, rfl⟩ := List.cons.inj h
    exact .variableThis hr
  | cons name segments =>
    rw [pathNames_property] at h
    obtain ⟨rfl, rfl⟩ := List.cons.inj h
    exact .namedAlike hr

theorem eq_or_confused_of_candidate (hq : q.root = p.candidate.var)
    (hr : r.root = p.candidate.var) (h : p.pathNames q = p.pathNames r) :
    q = r ∨ Path.Confused p.candidate others q r ∨ Path.Confused p.candidate others r q := by
  obtain ⟨_, segments⟩ := q
  obtain ⟨_, segments'⟩ := r
  subst hq
  subst hr
  -- The candidate itself is written `this`, and so is a property of that name.
  cases segments with
  | nil =>
    cases segments' with
    | nil => exact .inl rfl
    | cons name rest =>
      rw [pathNames_candidate, pathNames_property] at h
      obtain ⟨rfl, rfl⟩ := List.cons.inj h
      exact .inr (.inl .propertyThis)
  | cons name rest =>
    cases segments' with
    | nil =>
      rw [pathNames_candidate, pathNames_property] at h
      obtain ⟨rfl, rfl⟩ := List.cons.inj h
      exact .inr (.inr .propertyThis)
    | cons name' rest' =>
      rw [pathNames_property, pathNames_property] at h
      obtain ⟨rfl, rfl⟩ := List.cons.inj h
      exact .inl rfl

theorem pathNames_eq_of_confused (hdistinct : ((p.candidate :: others).map (·.var)).Nodup)
    (h : Path.Confused p.candidate others q r) : p.pathNames q = p.pathNames r := by
  have other {name : String} (hname : name ∈ others.map (·.var)) : name ≠ p.candidate.var := by
    rintro rfl
    exact (List.nodup_cons.1 hdistinct).1 hname
  cases h with
  | namedAlike hname => rw [pathNames_property, p.pathNames_of_other (other hname)]
  | propertyThis => rw [pathNames_candidate, pathNames_property]
  | variableThis hname => rw [pathNames_candidate, p.pathNames_of_other (other hname)]

/-- **Two paths are written alike exactly if they are the same path or can be confused.** The paths
begin at the candidate or at other sources, all of which have variables of their own. -/
theorem pathText_eq_iff (hdistinct : ((p.candidate :: others).map (·.var)).Nodup)
    (hq : q.root ∈ (p.candidate :: others).map (·.var)) (hqplain : q.Plain)
    (hr : r.root ∈ (p.candidate :: others).map (·.var)) (hrplain : r.Plain) :
    p.pathText q = p.pathText r ↔
      q = r ∨ Path.Confused p.candidate others q r ∨ Path.Confused p.candidate others r q := by
  rw [p.pathText_eq_iff_pathNames_eq hqplain hrplain]
  constructor
  · intro h
    rw [List.map_cons, List.mem_cons] at hq hr
    by_cases hqc : q.root = p.candidate.var <;> by_cases hrc : r.root = p.candidate.var
    · exact p.eq_or_confused_of_candidate hqc hrc h
    · exact .inr (.inl (p.confused_of_other hqc (hr.resolve_left hrc) hrc h))
    · exact .inr (.inr (p.confused_of_other hrc (hq.resolve_left hqc) hqc h.symm))
    · rw [p.pathNames_of_other hqc, p.pathNames_of_other hrc] at h
      obtain ⟨root, segments⟩ := List.cons.inj h
      obtain ⟨_, _⟩ := q
      obtain ⟨_, _⟩ := r
      cases root
      cases segments
      exact .inl rfl
  · rintro (rfl | h | h)
    · rfl
    · exact p.pathNames_eq_of_confused hdistinct h
    · exact (p.pathNames_eq_of_confused hdistinct h).symm

end Sources

/-! Persons and addresses -/

theorem pathText_eq_iff_address :
    let p : Pass := ⟨.default, ⟨"Person", "person"⟩, none, []⟩
    let q : Path := ⟨"person", ["address", "city"]⟩
    let r : Path := ⟨"address", ["city"]⟩
    p.pathText q = "address.city" ∧ q ≠ r ∧ p.pathText q = p.pathText r := by
  intro p q r
  have hdistinct : ((p.candidate :: [⟨"Address", "address"⟩]).map (·.var)).Nodup := by decide
  have confused : Path.Confused p.candidate [⟨"Address", "address"⟩] q r :=
    .namedAlike (List.mem_singleton_self _)
  have alike := p.pathText_eq_iff hdistinct (q := q) (r := r) (by decide) (by decide) (by decide)
    (by decide)
  exact ⟨by decide +kernel, by decide, alike.2 (.inr (.inl confused))⟩

/-- A property of the candidate is written like another source that has its name, so that a list of
both has the same text twice. -/
theorem property_written_like_variable :
    let candidate : Source := ⟨"Person", "person"⟩
    let others : List Source := [⟨"Address", "address"⟩]
    let q : Path := ⟨"person", ["address"]⟩
    let r : Path := ⟨"address", []⟩
    ((candidate :: others).map (·.var)).Nodup ∧
      q.root ∈ (candidate :: others).map (·.var) ∧ r.root ∈ (candidate :: others).map (·.var) ∧
      (∀ name ∈ (q.root :: q.segments) ++ (r.root :: r.segments),
        Config.isIdentifier name = true) ∧
      q ≠ r ∧ (∀ p : Pass, p.candidate = candidate → p.pathText q = p.pathText r) ∧
      (planOf .default (candidate :: others) .empty [.path q, .path r] (.list .all)).toOption.bind
        (·.result) = some "address, address" := by
  intro candidate others q r
  refine ⟨by decide, by decide, by decide, by decide, by decide, ?_, by decide +kernel⟩
  intro p hp
  simp [pathText, hp, candidate, q, r, Path.text, Path.isRoot]

end Pass

end StoreQuery
