import HybridTx.Commands.Run
import HybridTx.Proofs.Results

/-! Steps of commands that succeed: what each part of such a step gave, and which state it left to
the next. -/

namespace HybridTx

variable {σ ε α β : Type}

/-- What a step comes to in a state, and the state that it leaves. -/
def Step.runFrom (step : Step (StateM σ) α) (before : σ) : Except CommandError α × σ :=
  step.run before

/-- The step succeeds with a value, and leads from one state to another. -/
def Step.Gives (step : Step (StateM σ) α) (before : σ) (a : α) (after : σ) : Prop :=
  step.runFrom before = (.ok a, after)

namespace Step

/-- A computation that goes on with what a step came to. -/
theorem run_bind_apply (step : Step (StateM σ) α) (next : Except CommandError α → StateM σ β)
    (before : σ) : (step.run >>= next) before =
      next (step.runFrom before).1 (step.runFrom before).2 := rfl

variable {before after : σ} {a : α} {b : β}

@[simp] theorem gives_pure {a' : α} :
    Gives (pure a' : Step (StateM σ) α) before a after ↔ a' = a ∧ before = after := by
  change (Except.ok a', before) = (.ok a, after) ↔ _
  simp

@[simp] theorem not_gives_throw {fault : CommandError} :
    ¬Gives (throw fault : Step (StateM σ) α) before a after := by
  intro h
  cases (Prod.mk.inj h).1

theorem runFrom_orFault {fault : ε → CommandError} {result : StateM σ (Except ε α)} :
    (orFault fault result).runFrom before =
      ((result before).1.mapError fault, (result before).2) := rfl

theorem Gives.runFrom_bind {step : Step (StateM σ) α} {next : α → Step (StateM σ) β}
    (h : step.Gives before a after) :
    (step >>= next).runFrom before = (next a).runFrom after := by
  have hbind : (step >>= next).runFrom before =
      ExceptT.bindCont next (step.runFrom before).1 (step.runFrom before).2 := rfl
  rw [hbind, h]
  rfl

theorem runFrom_bind_of_fault {step : Step (StateM σ) α} {next : α → Step (StateM σ) β}
    {fault : CommandError} (h : step.runFrom before = (.error fault, after)) :
    (step >>= next).runFrom before = (.error fault, after) := by
  have hbind : (step >>= next).runFrom before =
      ExceptT.bindCont next (step.runFrom before).1 (step.runFrom before).2 := rfl
  rw [hbind, h]
  rfl

/-- Of two steps in a row, the second starts with what the first gave, where the first ended. -/
@[simp] theorem gives_bind {step : Step (StateM σ) α} {next : α → Step (StateM σ) β} :
    Gives (step >>= next) before b after ↔
      ∃ a between, step.Gives before a between ∧ (next a).Gives between b after := by
  rcases hstep : step.runFrom before with ⟨fault | a, between⟩
  · have hfault : (step >>= next).runFrom before = (.error fault, between) :=
      runFrom_bind_of_fault hstep
    simp [Gives, hfault, hstep]
  · have hnext : (step >>= next).runFrom before = (next a).runFrom between :=
      Gives.runFrom_bind hstep
    simp [Gives, hnext, hstep, and_assoc]

@[simp] theorem gives_lift {action : StateM σ α} :
    Gives (ExceptT.lift action) before a after ↔ action before = (a, after) := by
  change (Except.ok (action before).1, (action before).2) = (.ok a, after) ↔ _
  rw [Prod.mk.injEq, Except.ok.injEq]
  exact (@Prod.ext_iff _ _ (action before) (a, after)).symm

@[simp] theorem gives_orFault {fault : ε → CommandError} {result : StateM σ (Except ε α)} :
    Gives (orFault fault result) before a after ↔ result before = (.ok a, after) := by
  rw [Gives, runFrom_orFault, Prod.mk.injEq, mapError_eq_ok]
  exact (@Prod.ext_iff _ _ (result before) (.ok a, after)).symm

@[simp] theorem gives_pureOrFault {fault : ε → CommandError} {result : Except ε α} :
    Gives (pureOrFault fault result : Step (StateM σ) α) before a after ↔
      result = .ok a ∧ before = after := by
  change (result.mapError fault, before) = (.ok a, after) ↔ _
  rw [Prod.mk.injEq, mapError_eq_ok]

end Step

namespace Outcome

theorem exitCode_eq_zero {outcome : Outcome} : outcome.exitCode = 0 ↔ outcome.fault = none := by
  cases h : outcome.fault <;> simp [exitCode, h]

/-- A command that prints only when it succeeds ends well exactly when its step succeeds. -/
theorem ofStep_eq_iff {step : Step (StateM σ) (List String)} {before after : σ}
    {outcome : Outcome} :
    ofStep step before = (outcome, after) ∧ outcome.exitCode = 0 ↔
      ∃ lines, step.Gives before lines after ∧ outcome = { lines } := by
  rw [ofStep, Step.run_bind_apply]
  unfold Step.Gives
  rcases step.runFrom before with ⟨fault | lines, final⟩
  · change (({ fault := some fault } : Outcome), final) = (outcome, after) ∧ _ ↔ _
    simp only [Prod.mk.injEq, exitCode_eq_zero]
    constructor
    · rintro ⟨⟨rfl, -⟩, h⟩
      cases h
    · rintro ⟨_, ⟨h, -⟩, -⟩
      cases h
  · change (({ lines } : Outcome), final) = (outcome, after) ∧ _ ↔ _
    simp only [Prod.mk.injEq, exitCode_eq_zero]
    constructor
    · rintro ⟨⟨rfl, rfl⟩, -⟩
      exact ⟨lines, ⟨rfl, rfl⟩, rfl⟩
    · rintro ⟨_, ⟨h, rfl⟩, rfl⟩
      cases h
      exact ⟨⟨rfl, rfl⟩, rfl⟩

end Outcome

end HybridTx
