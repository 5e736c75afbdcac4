import ClusterBatch.Session
import Mathlib.Data.List.Forall2

/-!
# Steps that may fail

What a step does that changes a state and may fail: a step after another one is taken only if that
did not fail, and a step that handles an error only if there was one. In both cases it starts from
the state that the step before it has left.
-/

namespace ClusterBatch

namespace Fallible

variable {ς α β : Type} {step : ExceptT Error (StateM ς) α}
  {next : α → ExceptT Error (StateM ς) β} {handle : Error → ExceptT Error (StateM ς) α}
  {before middle after : ς} {a : α} {b : β} {e : Error}

theorem run_bind_of_ok (h : step.run.run before = (.ok a, middle)) :
    (step >>= next).run.run before = (next a).run.run middle := by
  rw [ExceptT.run_bind, StateT.run_bind, h]
  rfl

theorem run_bind_of_error (h : step.run.run before = (.error e, after)) :
    (step >>= next).run.run before = (.error e, after) := by
  rw [ExceptT.run_bind, StateT.run_bind, h]
  rfl

theorem run_bind_eq_ok :
    (step >>= next).run.run before = (.ok b, after) ↔ ∃ a middle,
      step.run.run before = (.ok a, middle) ∧ (next a).run.run middle = (.ok b, after) := by
  constructor
  · intro hrun
    rcases h : step.run.run before with ⟨result, middle⟩
    cases result with
    | ok a => exact ⟨a, middle, rfl, run_bind_of_ok h ▸ hrun⟩
    | error e =>
      rw [run_bind_of_error h] at hrun
      cases hrun
  · rintro ⟨a, middle, h, hnext⟩
    rw [run_bind_of_ok h, hnext]

theorem run_bind_eq_error :
    (step >>= next).run.run before = (.error e, after) ↔
      step.run.run before = (.error e, after) ∨ ∃ a middle,
        step.run.run before = (.ok a, middle) ∧ (next a).run.run middle = (.error e, after) := by
  constructor
  · intro hrun
    rcases h : step.run.run before with ⟨result, middle⟩
    cases result with
    | ok a => exact .inr ⟨a, middle, rfl, run_bind_of_ok h ▸ hrun⟩
    | error e' =>
      rw [run_bind_of_error h] at hrun
      cases hrun
      exact .inl rfl
  · rintro (h | ⟨a, middle, h, hnext⟩)
    · exact run_bind_of_error h
    · rw [run_bind_of_ok h, hnext]

/-- A step after another one is not taken if that failed. -/
theorem run_bind_cases {result : Except Error β}
    (h : (step >>= next).run.run before = (result, after)) :
    (∃ e, step.run.run before = (.error e, after) ∧ result = .error e) ∨ ∃ a middle,
      step.run.run before = (.ok a, middle) ∧ (next a).run.run middle = (result, after) := by
  rcases hstep : step.run.run before with ⟨first, middle⟩
  cases first with
  | ok a => exact .inr ⟨a, middle, rfl, run_bind_of_ok hstep ▸ h⟩
  | error e =>
    rw [run_bind_of_error hstep] at h
    cases h
    exact .inl ⟨e, rfl, rfl⟩

theorem run_map (f : α → β) (step : ExceptT Error (StateM ς) α) (before : ς) :
    (f <$> step).run.run before =
      ((step.run.run before).1.map f, (step.run.run before).2) := by
  rw [map_eq_pure_bind]
  rcases h : step.run.run before with ⟨result, after⟩
  cases result with
  | ok a =>
    rw [run_bind_of_ok h]
    rfl
  | error e =>
    rw [run_bind_of_error h]
    rfl

theorem run_ofExcept_iff {result final : Except Error α} :
    (result : ExceptT Error (StateM ς) α).run.run before = (final, after) ↔
      result = final ∧ before = after := by
  have hrun : (result : ExceptT Error (StateM ς) α).run.run before = (result, before) := by
    cases result <;> rfl
  rw [hrun, Prod.mk.injEq]

theorem run_of_discard
    (h : (discard step : ExceptT Error (StateM ς) Unit).run.run before = (.error e, after)) :
    step.run.run before = (.error e, after) := by
  obtain h | ⟨_, _, -, h⟩ := run_bind_eq_error.1 h
  · exact h
  · cases h

theorem run_tryCatch_of_ok (h : step.run.run before = (.ok a, after)) :
    (tryCatch step handle).run.run before = (.ok a, after) := by
  rw [ExceptT.run_tryCatch, StateT.run_bind, h]
  rfl

theorem run_tryCatch_of_error (h : step.run.run before = (.error e, middle)) :
    (tryCatch step handle).run.run before = (handle e).run.run middle := by
  rw [ExceptT.run_tryCatch, StateT.run_bind, h]
  rfl

theorem run_tryCatch_eq_ok :
    (tryCatch step handle).run.run before = (.ok a, after) ↔
      step.run.run before = (.ok a, after) ∨ ∃ e middle,
        step.run.run before = (.error e, middle) ∧ (handle e).run.run middle = (.ok a, after) := by
  constructor
  · intro hrun
    rcases h : step.run.run before with ⟨result, middle⟩
    cases result with
    | ok a => exact .inl (run_tryCatch_of_ok h ▸ hrun)
    | error e => exact .inr ⟨e, middle, rfl, run_tryCatch_of_error h ▸ hrun⟩
  · rintro (h | ⟨e, middle, h, hhandle⟩)
    · exact run_tryCatch_of_ok h
    · rw [run_tryCatch_of_error h, hhandle]

theorem run_tryCatch_eq_error :
    (tryCatch step handle).run.run before = (.error e, after) ↔ ∃ cause middle,
      step.run.run before = (.error cause, middle) ∧
        (handle cause).run.run middle = (.error e, after) := by
  constructor
  · intro hrun
    rcases h : step.run.run before with ⟨result, middle⟩
    cases result with
    | ok a => cases (run_tryCatch_of_ok h).symm.trans hrun
    | error cause => exact ⟨cause, middle, rfl, run_tryCatch_of_error h ▸ hrun⟩
  · rintro ⟨cause, middle, h, hhandle⟩
    rw [run_tryCatch_of_error h, hhandle]

theorem run_adapt {ε : Type} (f : ε → Error) (activity : StateM ς (Except ε α)) (before : ς) :
    (ExceptT.adapt f (ExceptT.mk activity) : ExceptT Error (StateM ς) α).run.run before =
      ((activity.run before).1.mapError f, (activity.run before).2) := rfl

/-- What each of several steps returns is related to what it was for. -/
theorem forall₂_of_mapM {γ : Type} {f : γ → ExceptT Error (StateM ς) α} {items : List γ}
    {results : List α} {r : γ → α → Prop}
    (hstep : ∀ item before a after, (f item).run.run before = (.ok a, after) → r item a)
    (h : (items.mapM f).run.run before = (.ok results, after)) : List.Forall₂ r items results := by
  induction items generalizing before results with
  | nil =>
    cases h
    exact .nil
  | cons item items ih =>
    rw [List.mapM_cons] at h
    obtain ⟨a, _, ha, h⟩ := run_bind_eq_ok.1 h
    obtain ⟨rest, _, hrest, h⟩ := run_bind_eq_ok.1 h
    cases h
    exact .cons (hstep _ _ _ _ ha) (ih hrest)

theorem exists_getElem?_of_forall₂ {γ : Type} {items : List γ} {results : List α}
    {r : γ → α → Prop} {i : Nat} {item : γ} (h : List.Forall₂ r items results)
    (hitem : items[i]? = some item) : ∃ a, results[i]? = some a ∧ r item a := by
  obtain ⟨hi, rfl⟩ := List.getElem?_eq_some_iff.1 hitem
  have hi' : i < results.length := h.length_eq ▸ hi
  exact ⟨results[i], List.getElem?_eq_getElem hi', h.get hi hi'⟩

end Fallible

end ClusterBatch
