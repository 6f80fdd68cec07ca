import Registrar.Proofs.Scan.Schedule
import Registrar.Proofs.Source.Selection

/-!
# Why a run fails

A run whose plugins only look on fails only where its root is no directory. Nothing that a phase
records is an error, so the checks of the findings go through, and a run that succeeds has its
fragments.
-/

set_option autoImplicit false

namespace Registrar

/-- Whether the plugin leaves each scan as it is and never refuses to go on. -/
def Plugin.IsPassive (plugin : Plugin) : Prop :=
  ∀ phase scan, (plugin.before phase).run.run scan = (.ok (), scan) ∧
    (plugin.after phase).run.run scan = (.ok (), scan)

/-- The fragments are those of the names: one context class and one row of the table for each name,
in their order. -/
structure Fragments.AreFor (fragments : Fragments) (names : List String) : Prop where
  contextNames : fragments.contexts.map Fragment.name = names
  entryNames : fragments.entries.map Fragment.name = names
  contexts : ∀ fragment ∈ fragments.contexts, fragment.kind = .context ∧
    fragment.text = "\n    [JsonSerializable(typeof(" ++ fragment.name ++
      "))]\n    public partial class " ++ fragment.name ++
      "Context : JsonSerializerContext \x7b \x7d\n"
  entries : ∀ fragment ∈ fragments.entries, fragment.kind = .entry ∧
    fragment.text = "        \x7b typeof(" ++ fragment.name ++ "), new " ++ fragment.name ++
      "Context().GetTypeInfo(typeof(" ++ fragment.name ++ ")) \x7d,"

theorem Fragments.areFor_ofNames (names : List String) :
    (Fragments.ofNames names).AreFor names where
  contextNames := by simp [ofNames, Fragment.context, Function.comp_def]
  entryNames := by simp [ofNames, Fragment.entry, Function.comp_def]
  contexts := by
    intro fragment membership
    obtain ⟨name, -, rfl⟩ := List.mem_map.1 membership
    refine ⟨rfl, ?_⟩
    have indentation : Indent.classBody.text 1 = "    " := rfl
    simp only [Fragment.context, CodeBuilder.new, CodeBuilder.blank, CodeBuilder.deeper,
      CodeBuilder.line, indentation]
    simp [← String.toList_inj]
  entries := by
    intro fragment membership
    obtain ⟨name, -, rfl⟩ := List.mem_map.1 membership
    exact ⟨rfl, rfl⟩

namespace Scan

variable {scan : Scan}

theorem hasErrors_eq_false_iff :
    scan.hasErrors = false ↔ ∀ diagnostic ∈ scan.diagnostics, diagnostic.severity ≠ .error := by
  simp [hasErrors, Diagnostic.isError]

/-- No phase records an error, be it one that fails. -/
theorem hasErrors_run (host : Host) (tree : FileTree) (phase : Phase)
    (free : scan.hasErrors = false) :
    ((phase.run host tree).run.run scan).2.hasErrors = false := by
  cases phase with
  | load =>
      rw [Phase.run, load, Procedure.run_bind, Procedure.run_get]
      simp only
      split
      · rename_i found _
        exact hasErrors_loaded free found
      · exact free
  | parse => exact hasErrors_parse free host.parser
  | collect => exact free
  | validate =>
      rw [Phase.run, run_validate _ (hasErrors_checked free _)]
      exact hasErrors_checked free _
  | dedup => exact free
  | synthesize => exact free

end Scan

namespace Pipeline

/-- No error is recorded, and none was when a step was begun. -/
structure ErrorFree (state : PipelineState) : Prop where
  scan : state.scan.hasErrors = false
  begun : ∀ entry ∈ state.begun, entry.2.hasErrors = false

theorem ErrorFree.performAll {tasks : List Task}
    (keeps : ∀ task ∈ tasks, ∀ scan : Scan, scan.hasErrors = false →
      (task.action.run.run scan).2.hasErrors = false)
    {state : PipelineState} (free : ErrorFree state) :
    ErrorFree ((Pipeline.performAll tasks).run.run state).2 := by
  induction tasks generalizing state with
  | nil => exact free
  | cons task tasks inductionHypothesis =>
      obtain ⟨keepsFirst, keepsRest⟩ := List.forall_mem_cons.1 keeps
      rcases state with ⟨scan, begun⟩
      have later : ∀ entry ∈ (task.step, scan) :: begun, entry.2.hasErrors = false :=
        List.forall_mem_cons.2 ⟨free.scan, free.begun⟩
      have left := keepsFirst scan free.scan
      rw [run_performAll_cons]
      rcases outcome : task.action.run.run scan with ⟨failure | answer, after⟩
      · rw [outcome] at left
        exact ⟨left, later⟩
      · rw [outcome] at left
        exact inductionHypothesis keepsRest ⟨left, later⟩

theorem run_performAll_still {tasks : List Task}
    (still : ∀ task ∈ tasks, ∀ scan, task.action.run.run scan = (.ok (), scan)) (scan : Scan)
    (begun : List (Step × Scan)) :
    ∃ more, (performAll tasks).run.run ⟨scan, begun⟩ = (.ok (), ⟨scan, more⟩) := by
  induction tasks generalizing begun with
  | nil => exact ⟨begun, rfl⟩
  | cons task tasks inductionHypothesis =>
      obtain ⟨first, rest⟩ := List.forall_mem_cons.1 still
      rw [run_performAll_cons, first scan]
      exact inductionHypothesis rest _

section Passive

variable (host : Host) (tree : FileTree) {plugins : List Plugin}
  (passive : ∀ plugin ∈ plugins, plugin.IsPassive)

include passive

/-- A task of a run is the body of a phase or touches nothing. -/
theorem action_of_mem_schedule {host : Host} {tree : FileTree} {task : Task}
    (membership : task ∈ schedule host tree plugins) :
    (∃ phase, task = ⟨.body phase, phase.run host tree⟩) ∨
      ∀ scan, task.action.run.run scan = (.ok (), scan) := by
  obtain ⟨phase, -, inside⟩ := List.mem_flatMap.1 membership
  rw [phaseTasks, List.mem_append, List.mem_cons] at inside
  rcases inside with before | rfl | after
  · obtain ⟨plugin, present, rfl⟩ := List.mem_map.1 before
    exact .inr fun scan => (passive plugin present phase scan).1
  · exact .inl ⟨phase, rfl⟩
  · obtain ⟨plugin, present, rfl⟩ := List.mem_map.1 after
    exact .inr fun scan => (passive plugin present phase scan).2

theorem errorFree_runPhases (settings : ScanSettings) :
    ErrorFree ((runPhases host tree plugins).run.run { scan := Scan.start settings }).2 := by
  rw [runPhases_eq]
  refine ErrorFree.performAll ?_ ⟨rfl, by simp⟩
  intro task membership scan free
  rcases action_of_mem_schedule passive membership with ⟨phase, rfl⟩ | still
  · exact Scan.hasErrors_run host tree phase free
  · rw [still scan]
    exact free

/-- Among plugins that look on a phase is what it is by itself, apart from the record. -/
theorem run_runPhase_passive (phase : Phase) (scan : Scan) (begun : List (Step × Scan)) :
    ∃ more, (runPhase host tree plugins phase).run.run ⟨scan, begun⟩ =
      (((phase.run host tree).run.run scan).1, ⟨((phase.run host tree).run.run scan).2, more⟩) := by
  have before : ∀ task ∈ plugins.map (fun plugin =>
      (⟨.before plugin.name phase, plugin.before phase⟩ : Task)),
      ∀ scan, task.action.run.run scan = (.ok (), scan) :=
    List.forall_mem_map.2 fun plugin present scan => (passive plugin present phase scan).1
  have after : ∀ task ∈ plugins.map (fun plugin =>
      (⟨.after plugin.name phase, plugin.after phase⟩ : Task)),
      ∀ scan, task.action.run.run scan = (.ok (), scan) :=
    List.forall_mem_map.2 fun plugin present scan => (passive plugin present phase scan).2
  obtain ⟨early, started⟩ := run_performAll_still before scan begun
  rw [runPhase_eq, phaseTasks, performAll_append, Procedure.run_bind, started]
  simp only
  rw [run_performAll_cons]
  rcases (phase.run host tree).run.run scan with ⟨failure | answer, left⟩
  · exact ⟨_, rfl⟩
  · exact run_performAll_still after left _

theorem run_forM_passive (phases : List Phase) (scan : Scan) (begun others : List (Step × Scan)) :
    ∃ result left more less,
      (phases.forM (runPhase host tree plugins)).run.run ⟨scan, begun⟩ = (result, ⟨left, more⟩) ∧
      (phases.forM (runPhase host tree [])).run.run ⟨scan, others⟩ = (result, ⟨left, less⟩) := by
  induction phases generalizing scan begun others with
  | nil => exact ⟨.ok (), scan, begun, others, rfl, rfl⟩
  | cons phase phases inductionHypothesis =>
      obtain ⟨more, ran⟩ := run_runPhase_passive host tree passive phase scan begun
      simp only [List.forM_eq_forM, List.forM_cons, Procedure.run_bind, ran, run_runPhase]
      rcases (phase.run host tree).run.run scan with ⟨failure | answer, after⟩
      · exact ⟨.error failure, after, _, _, rfl, rfl⟩
      · exact inductionHypothesis after _ _

theorem result_of_passive (settings : ScanSettings) :
    (run host tree plugins settings).result = (run host tree [] settings).result := by
  obtain ⟨result, left, more, less, same, alone⟩ :=
    run_forM_passive host tree passive Phase.all (Scan.start settings) [] []
  simp only [run, runPhases, same, alone]

end Passive

theorem result_of_no_plugin (host : Host) (tree : FileTree) (settings : ScanSettings) :
    (run host tree [] settings).result =
      match tree.discover host.access settings.root ⟨settings.extensions, settings.exclude⟩ with
      | some found => .ok (Scan.ofDiscovery host.parser settings found)
      | none => .error (.during (.scanning settings.root) (.missingRoot settings.root)) := by
  have wrapped := scanTree_eq host tree settings
  rw [scanTree] at wrapped
  rcases discovered : tree.discover host.access settings.root
    ⟨settings.extensions, settings.exclude⟩ with _ | found
  · rw [discovered] at wrapped
    split at wrapped
    · cases wrapped
    · rename_i failure failed
      rw [failed, (Failure.during.inj (Except.error.inj wrapped)).2]
  · rw [discovered] at wrapped
    split at wrapped
    · rename_i scan succeeded
      rw [succeeded, Except.ok.inj wrapped]
    · cases wrapped

/-- A run whose plugins only look on fails just where its root is no directory. No diagnostic is an
error when a step is begun or when the run ends, so the checks never fail. A run that succeeds has
its fragments, which can be taken once: one context class and one row for each name, in order. -/
theorem run_fails_only_at_root {host : Host} {tree : FileTree} {plugins : List Plugin}
    (passive : ∀ plugin ∈ plugins, plugin.IsPassive) (settings : ScanSettings) :
    let outcome := run host tree plugins settings
    ((∃ failure, outcome.result = .error failure) ↔ tree.isDirectory settings.root = false) ∧
      (∀ failure, outcome.result = .error failure →
        failure = .during (.scanning settings.root) (.missingRoot settings.root)) ∧
      (∀ step scan, (step, scan) ∈ outcome.trace →
        (∀ diagnostic ∈ scan.diagnostics, diagnostic.severity ≠ .error) ∧
        (step = .body .validate → ((Phase.validate.run host tree).run.run scan).1 = .ok ())) ∧
      ∀ scan, outcome.result = .ok scan →
        (∀ diagnostic ∈ scan.diagnostics, diagnostic.severity ≠ .error) ∧
        ∃ fragments rest, Scan.takeFragments.run.run scan = (.ok fragments, rest) ∧
          Scan.takeFragments.run.run rest = (.error .noFragments, rest) ∧
          fragments.AreFor scan.names := by
  intro outcome
  have free := errorFree_runPhases host tree passive settings
  have result := (result_of_passive host tree passive settings).trans
    (result_of_no_plugin host tree settings)
  have root := FileTree.discover_eq_none_iff tree host.access settings.root
    ⟨settings.extensions, settings.exclude⟩
  have early : ∀ step scan, (step, scan) ∈ outcome.trace → scan.hasErrors = false :=
    fun step scan membership => free.begun (step, scan) (List.mem_reverse.1 membership)
  refine ⟨?_, ?_, ?_, ?_⟩
  · rw [← root, result]
    rcases tree.discover host.access settings.root ⟨settings.extensions, settings.exclude⟩ with
      _ | found
    · simp
    · simp
  · intro failure failed
    rw [result] at failed
    split at failed
    · cases failed
    · exact (Except.error.inj failed).symm
  · intro step scan membership
    refine ⟨Scan.hasErrors_eq_false_iff.1 (early step scan membership), fun _ => ?_⟩
    rw [Phase.run, Scan.run_validate _ (Scan.hasErrors_checked (early step scan membership) _)]
  · intro scan succeeded
    rw [result] at succeeded
    split at succeeded
    · rename_i found discovered
      obtain rfl := Except.ok.inj succeeded
      exact ⟨Scan.hasErrors_eq_false_iff.1 (Scan.hasErrors_of_discovery host.parser settings found),
        _, _, rfl, rfl, Fragments.areFor_ofNames _⟩
    · cases succeeded

/-- A tree with one file, in which two marked types share a name and one of them is marked by an
attribute that is not the handler's own. -/
def suspiciousTypes : FileTree :=
  FileTree.empty.put ["A.cs"]
    (.file "[JsonAot] class Foo { } [JsonAotLike] class FOO { }".toUTF8 0o644)

/-- What looks suspicious is recorded, but not as an error. -/
theorem run_warns_of_suspicious_types :
    let plugins : List Plugin := [{ name := "first" }, { name := "second" }]
    (∀ plugin ∈ plugins, plugin.IsPassive) ∧
      ∃ scan fragments rest, (run .standard suspiciousTypes plugins { }).result = .ok scan ∧
        scan.diagnostics.length = 2 ∧
        (∀ diagnostic ∈ scan.diagnostics, diagnostic.severity ≠ .error) ∧
        Scan.takeFragments.run.run scan = (.ok fragments, rest) ∧
        fragments.AreFor scan.names := by
  intro plugins
  have passive : ∀ plugin ∈ plugins, plugin.IsPassive := by
    simp only [plugins, List.forall_mem_cons]
    exact ⟨fun _ _ => ⟨rfl, rfl⟩, fun _ _ => ⟨rfl, rfl⟩, by simp⟩
  have recorded : (run .standard suspiciousTypes plugins { }).result.toOption.map
      (fun scan => scan.diagnostics.length) = some 2 := by
    decide +kernel
  obtain ⟨-, -, -, succeeds⟩ :=
    @run_fails_only_at_root .standard suspiciousTypes plugins passive { }
  rcases outcome : (run .standard suspiciousTypes plugins { }).result with failure | scan
  · rw [outcome] at recorded
    cases recorded
  · rw [outcome] at recorded
    obtain ⟨harmless, fragments, rest, taken, -, aligned⟩ := succeeds scan outcome
    exact ⟨passive, scan, fragments, rest, rfl, Option.some.inj recorded, harmless, taken, aligned⟩

end Pipeline

end Registrar
