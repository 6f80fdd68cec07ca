/-!
# Procedures

A procedure changes a state and may fail; the state that a failed step leaves is the one that
remains. What a procedure comes to is said in terms of its steps.
-/

set_option autoImplicit false

namespace Registrar.Procedure

variable {σ ε α β : Type}

@[simp]
theorem run_pure (answer : α) (state : σ) :
    (pure answer : ExceptT ε (StateM σ) α).run.run state = (.ok answer, state) := rfl

@[simp]
theorem run_throw (error : ε) (state : σ) :
    (throw error : ExceptT ε (StateM σ) α).run.run state = (.error error, state) := rfl

@[simp]
theorem run_get (state : σ) :
    (get : ExceptT ε (StateM σ) σ).run.run state = (.ok state, state) := rfl

@[simp]
theorem run_set (state after : σ) :
    (set after : ExceptT ε (StateM σ) Unit).run.run state = (.ok (), after) := rfl

@[simp]
theorem run_modify (edit : σ → σ) (state : σ) :
    (modify edit : ExceptT ε (StateM σ) Unit).run.run state = (.ok (), edit state) := rfl

theorem run_bind (procedure : ExceptT ε (StateM σ) α) (next : α → ExceptT ε (StateM σ) β)
    (state : σ) :
    (procedure >>= next).run.run state =
      match procedure.run.run state with
      | (.ok answer, after) => (next answer).run.run after
      | (.error error, after) => (.error error, after) := by
  rw [ExceptT.run_bind, StateT.run_bind]
  rcases procedure.run.run state with ⟨error | answer, after⟩ <;> rfl

theorem exists_of_run_bind {procedure : ExceptT ε (StateM σ) α} {next : α → ExceptT ε (StateM σ) β}
    {state after : σ} {answer : β}
    (done : (procedure >>= next).run.run state = (.ok answer, after)) :
    ∃ first between, procedure.run.run state = (.ok first, between) ∧
      (next first).run.run between = (.ok answer, after) := by
  rw [run_bind] at done
  rcases outcome : procedure.run.run state with ⟨error | first, between⟩
  · rw [outcome] at done
    cases done
  · rw [outcome] at done
    exact ⟨first, between, rfl, done⟩

theorem exists_of_map {outcome : Except ε α × σ} {question : α → β} {answer : β}
    (known : outcome.1.map question = .ok answer) :
    ∃ report after, outcome = (.ok report, after) ∧ question report = answer := by
  obtain ⟨error | report, after⟩ := outcome
  · cases known
  · exact ⟨report, after, rfl, Except.ok.inj known⟩

theorem run_tryCatch (procedure : ExceptT ε (StateM σ) α) (handler : ε → ExceptT ε (StateM σ) α)
    (state : σ) :
    (tryCatch procedure handler).run.run state =
      match procedure.run.run state with
      | (.ok answer, after) => (.ok answer, after)
      | (.error error, after) => (handler error).run.run after := by
  rw [ExceptT.run_tryCatch, StateT.run_bind]
  rcases procedure.run.run state with ⟨error | answer, after⟩ <;> rfl

end Registrar.Procedure
