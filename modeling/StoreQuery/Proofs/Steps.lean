import StoreQuery.Error

/-!
# Steps that may fail

What is planned and asked for is done in steps, and the first that fails ends the rest.

* `exists_of_bind_eq_ok` takes steps apart that succeeded;
* `bind_eq_map_bind` compares two rows of steps;
* `SucceedsIff` : a step that succeeds exactly under a condition, and else refuses an expression;
* `FailsFor` : a step that fails for certain causes only.
-/

namespace StoreQuery

/-- What follows a step that may fail is done only if the step succeeds. -/
theorem exists_of_bind_eq_ok {ε α β : Type} {x : Except ε α} {f : α → Except ε β} {b : β}
    (h : x >>= f = .ok b) : ∃ a, x = .ok a ∧ f a = .ok b := by
  cases x with
  | error => cases h
  | ok a => exact ⟨a, rfl, h⟩

theorem exists_of_toOption_bind {ε α β : Type} {x : Except ε α} {f : α → Option β} {b : β}
    (h : x.toOption.bind f = some b) : ∃ a, x = .ok a ∧ f a = some b := by
  cases x with
  | error => cases h
  | ok a => exact ⟨a, rfl, h⟩

/-- A map touches no error. -/
theorem eq_error_of_map {ε α β : Type} {x : Except ε α} {f : α → β} {cause : ε}
    (h : x.map f = .error cause) : x = .error cause := by
  cases x with
  | error => simpa only [Except.map, Except.error.injEq] using h
  | ok a => cases h

/-- What every step keeps holds after all of them. -/
theorem of_foldlM_eq_ok {ε α β : Type} {P : β → Prop} {f : β → α → Except ε β} {as : List α}
    {b b' : β} (step : ∀ {b a b'}, P b → f b a = .ok b' → P b') (hb : P b)
    (h : as.foldlM f b = .ok b') : P b' := by
  induction as generalizing b with
  | nil =>
    cases h
    exact hb
  | cons a as ih =>
    rw [List.foldlM_cons] at h
    obtain ⟨c, hc, h⟩ := exists_of_bind_eq_ok h
    exact ih (step hb hc) h

/-- If two steps agree up to a map, and so do what follows them, both together agree. -/
theorem bind_eq_map_bind {ε α α' β β' : Type} {x : Except ε α} {x' : Except ε α'}
    {k : α → Except ε β} {k' : α' → Except ε β'} {φ : α → α'} {ψ : β → β'} (hx : x' = x.map φ)
    (h : ∀ a, k' (φ a) = (k a).map ψ) : x' >>= k' = (x >>= k).map ψ := by
  subst hx
  cases x with
  | error => rfl
  | ok a => exact h a

/-! ### Success under a condition -/

/-- The step succeeds exactly if `p` holds, and fails for no other reason than an expression that
cannot be written. -/
structure SucceedsIff {α : Type} (x : Except QueryError α) (p : Prop) : Prop where
  /-- When it succeeds. -/
  isOk_iff : (∃ a, x = .ok a) ↔ p
  /-- Why it fails. -/
  refused : ∀ cause, x = .error cause → ∃ e, cause = .clause e

namespace SucceedsIff

variable {α β : Type} {x : Except QueryError α} {p q : Prop}

theorem ok (a : α) : SucceedsIff (.ok a) True := by
  refine ⟨⟨fun _ => trivial, fun _ => ⟨a, rfl⟩⟩, ?_⟩
  intro cause h
  cases h

theorem congr (h : SucceedsIff x p) (hpq : p ↔ q) : SucceedsIff x q :=
  ⟨h.isOk_iff.trans hpq, h.refused⟩

/-- Of two steps both must succeed. -/
theorem bind {f : α → Except QueryError β} (h : SucceedsIff x p)
    (hf : ∀ a, x = .ok a → SucceedsIff (f a) q) : SucceedsIff (x >>= f) (p ∧ q) := by
  cases x with
  | ok a =>
    have holds : p := h.isOk_iff.1 ⟨a, rfl⟩
    exact (hf a rfl).congr (by simp [holds])
  | error cause =>
    have fails : ¬ p := by
      intro hp
      obtain ⟨a, ha⟩ := h.isOk_iff.2 hp
      cases ha
    refine ⟨⟨nofun, fun hp => absurd hp.1 fails⟩, ?_⟩
    rintro _ ⟨⟩
    exact h.refused cause rfl

/-- A step that always succeeds is not seen. -/
theorem bind_ok {f : α → Except QueryError β} (h : SucceedsIff x p)
    (hf : ∀ a, x = .ok a → ∃ b, f a = .ok b) : SucceedsIff (x >>= f) p := by
  refine (h.bind (q := True) ?_).congr (and_iff_left trivial)
  intro a ha
  obtain ⟨b, hb⟩ := hf a ha
  rw [hb]
  exact .ok b

theorem map (h : SucceedsIff x p) (f : α → β) : SucceedsIff (x.map f) p := by
  have : x.map f = x >>= fun a => .ok (f a) := by cases x <;> rfl
  rw [this]
  exact h.bind_ok fun a _ => ⟨f a, rfl⟩

end SucceedsIff

/-! ### Failure for a reason -/

/-- The step fails for no other cause than those of `P`. -/
def FailsFor {α : Type} (P : QueryError → Prop) (x : Except QueryError α) : Prop :=
  ∀ cause, x = .error cause → P cause

namespace FailsFor

variable {α β : Type} {P : QueryError → Prop} {x : Except QueryError α}

theorem ok (a : α) : FailsFor P (.ok a) := by
  intro cause h
  cases h

theorem error {cause : QueryError} (h : P cause) :
    FailsFor P (.error cause : Except QueryError α) := by
  rintro _ ⟨⟩
  exact h

/-- Each of two steps may fail. -/
theorem bind {f : α → Except QueryError β} (h : FailsFor P x)
    (hf : ∀ a, x = .ok a → FailsFor P (f a)) : FailsFor P (x >>= f) := by
  cases x with
  | ok a => exact hf a rfl
  | error cause =>
    exact error (h cause rfl)

theorem map (h : FailsFor P x) (f : α → β) : FailsFor P (x.map f) := by
  cases x with
  | ok a => exact ok (f a)
  | error cause => exact error (h cause rfl)

/-- A step is made for each element, and each may fail. -/
theorem mapM {f : α → Except QueryError β} {as : List α} (h : ∀ a ∈ as, FailsFor P (f a)) :
    FailsFor P (as.mapM f) := by
  induction as with
  | nil => exact ok []
  | cons a as ih =>
    obtain ⟨ha, has⟩ := List.forall_mem_cons.1 h
    rw [List.mapM_cons]
    exact ha.bind fun _ _ => (ih has).bind fun _ _ => ok _

end FailsFor

end StoreQuery
