import Registrar.FileTree.Edit
import Registrar.Proofs.Procedure

/-!
# Procedures on a file tree

Single changes of a tree, and relations of trees that all steps of a procedure respect.
-/

set_option autoImplicit false

namespace Registrar.FileM

open Procedure

variable {ε δ α β : Type}

@[simp]
theorem run_ask (question : FileTree → Except ε α) (tree : FileTree) :
    (ask question).run.run tree = (question tree, tree) := by
  unfold ask
  rw [run_bind, run_get]
  simp only
  cases question tree <;> rfl

@[simp]
theorem run_change (edit : FileTree → Except ε FileTree) (tree : FileTree) :
    (change edit).run.run tree =
      match edit tree with
      | .ok after => (.ok (), after)
      | .error error => (.error error, tree) := by
  unfold change
  rw [run_bind, run_ask]
  cases edit tree <;> rfl

@[simp]
theorem run_during (explain : ε → δ) (procedure : FileM ε α) (tree : FileTree) :
    (procedure.during explain).run.run tree =
      match procedure.run.run tree with
      | (.ok answer, after) => (.ok answer, after)
      | (.error error, after) => (.error (explain error), after) := by
  rw [during, ExceptT.run_mk, StateT.run_bind]
  rcases procedure.run.run tree with ⟨error | answer, after⟩ <;> rfl

theorem run_during_eq_ok {explain : ε → δ} {procedure : FileM ε α} {tree after : FileTree}
    {answer : α} : (procedure.during explain).run.run tree = (.ok answer, after) ↔
      procedure.run.run tree = (.ok answer, after) := by
  rw [run_during]
  rcases procedure.run.run tree with ⟨error | first, between⟩ <;>
    constructor <;> rintro ⟨⟩ <;> rfl

theorem run_attempt (procedure : FileM ε Unit) (tree : FileTree) :
    (attempt procedure).run.run tree = (.ok (), (procedure.run.run tree).2) := by
  rw [attempt, run_tryCatch]
  rcases procedure.run.run tree with ⟨error | answer, after⟩ <;> rfl

/-- A relation of trees that holds between the ends of a chain of steps. -/
structure Composes (related : FileTree → FileTree → Prop) : Prop where
  refl : ∀ tree, related tree tree
  trans : ∀ {first second third}, related first second → related second third →
    related first third

/-- Whatever a procedure comes to, the tree that it leaves is related to the one it found. -/
def Within (related : FileTree → FileTree → Prop) (procedure : FileM ε α) : Prop :=
  ∀ tree, related tree (procedure.run.run tree).2

namespace Within

variable {related : FileTree → FileTree → Prop} (composes : Composes related)

include composes

theorem pure (answer : α) : Within related (Pure.pure answer : FileM ε α) := composes.refl

theorem throw (error : ε) : Within related (MonadExcept.throw error : FileM ε α) := composes.refl

theorem get : Within related (MonadState.get : FileM ε FileTree) := composes.refl

theorem bind {procedure : FileM ε α} {next : α → FileM ε β}
    (first : Within related procedure) (second : ∀ answer, Within related (next answer)) :
    Within related (procedure >>= next) := by
  intro tree
  have early := first tree
  rw [run_bind]
  rcases outcome : procedure.run.run tree with ⟨error | answer, between⟩
  · rw [outcome] at early
    exact early
  · rw [outcome] at early
    exact composes.trans early (second answer between)

theorem tryCatch {procedure : FileM ε α} {handler : ε → FileM ε α}
    (first : Within related procedure) (second : ∀ error, Within related (handler error)) :
    Within related (MonadExcept.tryCatch procedure handler) := by
  intro tree
  have early := first tree
  rw [run_tryCatch]
  rcases outcome : procedure.run.run tree with ⟨error | answer, between⟩
  · rw [outcome] at early
    exact composes.trans early (second error between)
  · rw [outcome] at early
    exact early

theorem change {edit : FileTree → Except ε FileTree}
    (edits : ∀ {tree after}, edit tree = .ok after → related tree after) :
    Within related (FileM.change edit) := by
  intro tree
  rw [run_change]
  cases edited : edit tree with
  | error error => exact composes.refl tree
  | ok after => exact edits edited

end Within

end Registrar.FileM
