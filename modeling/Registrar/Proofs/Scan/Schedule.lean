import Registrar.Proofs.Scan.Pipeline

/-!
# The schedule of a run

A run has a schedule: for each phase the plugins are called before and after it, in their order. The
run keeps to its schedule until a step fails. Each step is given the scan that the one before it
has left, and nothing is done behind a step that fails.
-/

set_option autoImplicit false

namespace Registrar.Pipeline

structure Task where
  step : Step
  action : ScanM Unit

def phaseTasks (host : Host) (tree : FileTree) (plugins : List Plugin) (phase : Phase) :
    List Task :=
  plugins.map (fun plugin => ⟨.before plugin.name phase, plugin.before phase⟩) ++
    ⟨.body phase, phase.run host tree⟩ ::
      plugins.map (fun plugin => ⟨.after plugin.name phase, plugin.after phase⟩)

/-- What is due in a whole run. -/
def schedule (host : Host) (tree : FileTree) (plugins : List Plugin) : List Task :=
  [Phase.load, .parse, .collect, .validate, .dedup, .synthesize].flatMap
    (phaseTasks host tree plugins)

/-- The tasks succeed one after another and turn the first scan into the last one. The trace tells
which scan each of them was given. -/
inductive Succeeds : Scan → List Task → List (Step × Scan) → Scan → Prop where
  | nil {scan} : Succeeds scan [] [] scan
  | cons {scan between final task tasks trace} :
      task.action.run.run scan = (.ok (), between) →
      Succeeds between tasks trace final →
      Succeeds scan (task :: tasks) ((task.step, scan) :: trace) final

def performAll (tasks : List Task) : PipelineM Unit :=
  tasks.forM fun task => perform task.step task.action

theorem performAll_cons (task : Task) (tasks : List Task) :
    performAll (task :: tasks) = perform task.step task.action >>= fun _ => performAll tasks := rfl

theorem performAll_append (tasks more : List Task) :
    performAll (tasks ++ more) = performAll tasks >>= fun _ => performAll more :=
  List.forM_append

theorem runPhase_eq (host : Host) (tree : FileTree) (plugins : List Plugin) (phase : Phase) :
    runPhase host tree plugins phase = performAll (phaseTasks host tree plugins phase) := by
  rw [phaseTasks, performAll_append, performAll_cons]
  simp only [performAll, runPhase, List.forM_eq_forM, List.forM_map]

theorem forM_runPhase (host : Host) (tree : FileTree) (plugins : List Plugin)
    (phases : List Phase) :
    phases.forM (runPhase host tree plugins) =
      performAll (phases.flatMap (phaseTasks host tree plugins)) := by
  induction phases with
  | nil => rfl
  | cons phase rest inductionHypothesis =>
      rw [List.flatMap_cons, performAll_append, ← inductionHypothesis, ← runPhase_eq]
      rfl

theorem runPhases_eq (host : Host) (tree : FileTree) (plugins : List Plugin) :
    runPhases host tree plugins = performAll (schedule host tree plugins) :=
  forM_runPhase host tree plugins Phase.all

theorem run_performAll_cons (task : Task) (tasks : List Task) (scan : Scan)
    (begun : List (Step × Scan)) :
    (performAll (task :: tasks)).run.run ⟨scan, begun⟩ =
      match task.action.run.run scan with
      | (.ok (), between) => (performAll tasks).run.run ⟨between, (task.step, scan) :: begun⟩
      | (.error failure, after) => (.error failure, ⟨after, (task.step, scan) :: begun⟩) := by
  rw [performAll_cons, Procedure.run_bind, run_perform]
  rcases task.action.run.run scan with ⟨failure | answer, after⟩
  · rfl
  · rfl

/-- What performing tasks comes to, by induction on the tasks: what is recorded is put before what
earlier tasks have recorded. -/
theorem run_performAll (tasks : List Task) (scan : Scan) (begun : List (Step × Scan)) :
    (∃ trace final, Succeeds scan tasks trace final ∧
      (performAll tasks).run.run ⟨scan, begun⟩ = (.ok (), ⟨final, trace.reverse ++ begun⟩)) ∨
    ∃ done failing rest trace between failure after,
      tasks = done ++ failing :: rest ∧ Succeeds scan done trace between ∧
      failing.action.run.run between = (.error failure, after) ∧
      (performAll tasks).run.run ⟨scan, begun⟩ =
        (.error failure, ⟨after, (failing.step, between) :: (trace.reverse ++ begun)⟩) := by
  induction tasks generalizing scan begun with
  | nil => exact .inl ⟨[], scan, .nil, rfl⟩
  | cons task tasks inductionHypothesis =>
      rw [run_performAll_cons]
      rcases outcome : task.action.run.run scan with ⟨failure | answer, after⟩
      · exact .inr ⟨[], task, tasks, [], scan, failure, after, rfl, .nil, outcome, rfl⟩
      · rcases inductionHypothesis after ((task.step, scan) :: begun) with
          ⟨trace, final, succeeds, run⟩ |
          ⟨done, failing, rest, trace, between, failure, left, rfl, succeeds, failed, run⟩
        · refine .inl ⟨_, final, .cons outcome succeeds, run.trans ?_⟩
          simp
        · refine .inr ⟨task :: done, failing, rest, _, between, failure, left, rfl,
            .cons outcome succeeds, failed, run.trans ?_⟩
          simp

theorem Succeeds.map_fst {scan final : Scan} {tasks : List Task} {trace : List (Step × Scan)}
    (succeeds : Succeeds scan tasks trace final) : trace.map Prod.fst = tasks.map Task.step := by
  induction succeeds with
  | nil => rfl
  | cons _ _ inductionHypothesis => rw [List.map_cons, List.map_cons, inductionHypothesis]

/-- A run begins the steps of its schedule in their order, up to the first one that fails, each on
the scan that the one before it has left. It ends with the failure of that step or, if all of them
succeed, with the scan that the last one leaves. -/
theorem run_keeps_schedule (host : Host) (tree : FileTree) (plugins : List Plugin)
    (settings : ScanSettings) :
    let outcome := run host tree plugins settings
    let tasks := schedule host tree plugins
    outcome.trace.map Prod.fst <+: tasks.map Task.step ∧
      match outcome.result with
      | .ok final => Succeeds (Scan.start settings) tasks outcome.trace final
      | .error failure => ∃ done failing rest trace between after,
          tasks = done ++ failing :: rest ∧
          Succeeds (Scan.start settings) done trace between ∧
          failing.action.run.run between = (.error failure, after) ∧
          outcome.trace = trace ++ [(failing.step, between)] := by
  intro outcome tasks
  rcases run_performAll tasks (Scan.start settings) [] with
    ⟨trace, final, succeeds, run⟩ |
    ⟨done, failing, rest, trace, between, failure, after, split, succeeds, failed, run⟩
  · have finished : outcome = ⟨.ok final, trace⟩ := by
      rw [← runPhases_eq] at run
      simp [outcome, Pipeline.run, run, Except.map]
    rw [finished]
    exact ⟨succeeds.map_fst ▸ List.prefix_rfl, succeeds⟩
  · have ended : outcome = ⟨.error failure, trace ++ [(failing.step, between)]⟩ := by
      rw [← runPhases_eq] at run
      simp [outcome, Pipeline.run, run, Except.map]
    rw [ended]
    refine ⟨⟨rest.map Task.step, ?_⟩, done, failing, rest, trace, between, after, split, succeeds,
      failed, rfl⟩
    simp [split, succeeds.map_fst]

/-- A plugin that refuses to let the files be parsed is the last one to be called. -/
example : (run .standard .empty
    [{ name := "first" },
      { name := "second",
        before := fun phase => if phase = .parse then throw (.refused "no") else pure () },
      { name := "third" }] { }).trace.map Prod.fst =
    [.before "first" .load, .before "second" .load, .before "third" .load, .body .load,
      .after "first" .load, .after "second" .load, .after "third" .load,
      .before "first" .parse, .before "second" .parse] := by
  decide +kernel

end Registrar.Pipeline
