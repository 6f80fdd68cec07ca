import Registrar.Operation.Listing
import Registrar.Proofs.Procedure

/-!
# Scans without plugins

A scan without plugins fails only where its root is missing: nothing that a phase records is an
error. What it finds depends on the files below the root alone.
-/

set_option autoImplicit false

namespace Registrar

namespace Scan

def checked (scan : Scan) (lints : List Lint) : Scan :=
  { scan with
    diagnostics := scan.diagnostics ++ (lints.flatMap fun lint => lint.check scan.findings) }

def loaded (scan : Scan) (found : Discovery) : Scan :=
  { scan with
    sources := found.files
    diagnostics := scan.diagnostics ++ found.failures.map loadWarning }

/-- A scan of what was discovered after all phases. -/
def ofDiscovery (parser : SourceParser) (settings : ScanSettings) (found : Discovery) : Scan :=
  let collected := (((start settings).loaded found).parse parser).collect
  (collected.checked Lint.defaults).dedup.synthesize

theorem isError_of_mem_unitWarnings {unit : SourceUnit} {diagnostic : Diagnostic}
    (membership : diagnostic ∈ unitWarnings unit) : diagnostic.isError = false := by
  rw [unitWarnings, List.mem_append] at membership
  rcases membership with lossy | recovered
  · split at lossy
    · rw [List.mem_singleton.1 lossy]
      rfl
    · cases lossy
  · split at recovered
    · rw [List.mem_singleton.1 recovered]
      rfl
    · cases recovered

end Scan

namespace Lint

theorem isError_of_mem_duplicatesAfter {kept findings : List Finding} {diagnostic : Diagnostic}
    (membership : diagnostic ∈ duplicatesAfter kept findings) : diagnostic.isError = false := by
  induction findings generalizing kept with
  | nil => cases membership
  | cons finding rest inductionHypothesis =>
      rw [duplicatesAfter] at membership
      split at membership
      · rcases List.mem_cons.1 membership with rfl | later
        · rfl
        · exact inductionHypothesis later
      · exact inductionHypothesis membership

theorem isError_of_mem_check {lint : Lint} {findings : List Finding} {diagnostic : Diagnostic}
    (membership : diagnostic ∈ lint.check findings) : diagnostic.isError = false := by
  cases lint with
  | nearMiss =>
      obtain ⟨finding, -, rfl⟩ := List.mem_map.1 membership
      rfl
  | duplicateName => exact isError_of_mem_duplicatesAfter membership

end Lint

namespace Scan

variable {scan : Scan}

theorem hasErrors_of_append {after : Scan} {more : List Diagnostic}
    (free : scan.hasErrors = false) (added : after.diagnostics = scan.diagnostics ++ more)
    (harmless : ∀ diagnostic ∈ more, diagnostic.isError = false) : after.hasErrors = false := by
  rw [hasErrors, added, List.any_append, Bool.or_eq_false_iff]
  exact ⟨free, List.any_eq_false.2 fun diagnostic membership => by simp [harmless _ membership]⟩

theorem hasErrors_loaded (free : scan.hasErrors = false) (found : Discovery) :
    (scan.loaded found).hasErrors = false := by
  refine hasErrors_of_append free rfl fun diagnostic membership => ?_
  obtain ⟨failure, -, rfl⟩ := List.mem_map.1 membership
  rfl

theorem hasErrors_parse (free : scan.hasErrors = false) (parser : SourceParser) :
    (scan.parse parser).hasErrors = false := by
  refine hasErrors_of_append free rfl fun diagnostic membership => ?_
  obtain ⟨unit, -, warning⟩ := List.mem_flatMap.1 membership
  exact isError_of_mem_unitWarnings warning

theorem hasErrors_checked (free : scan.hasErrors = false) (lints : List Lint) :
    (scan.checked lints).hasErrors = false := by
  refine hasErrors_of_append free rfl fun diagnostic membership => ?_
  obtain ⟨lint, -, check⟩ := List.mem_flatMap.1 membership
  exact Lint.isError_of_mem_check check

theorem hasErrors_of_discovery (parser : SourceParser) (settings : ScanSettings)
    (found : Discovery) : (ofDiscovery parser settings found).hasErrors = false := by
  have loaded : ((start settings).loaded found).hasErrors = false := hasErrors_loaded rfl found
  have collected : (((start settings).loaded found).parse parser).collect.hasErrors = false :=
    hasErrors_parse loaded parser
  exact hasErrors_checked collected Lint.defaults

end Scan

namespace Pipeline

theorem run_perform (step : Step) (action : ScanM Unit) (state : PipelineState) :
    (perform step action).run.run state =
      ((action.run.run state.scan).1,
        ⟨(action.run.run state.scan).2, (step, state.scan) :: state.begun⟩) := rfl

theorem run_runPhase (host : Host) (tree : FileTree) (phase : Phase) (state : PipelineState) :
    (runPhase host tree [] phase).run.run state =
      (((phase.run host tree).run.run state.scan).1,
        ⟨((phase.run host tree).run.run state.scan).2,
          (.body phase, state.scan) :: state.begun⟩) := by
  have noPlugin : ∀ (hook : Plugin → PipelineM Unit) (state : PipelineState),
      (List.forM [] hook).run.run state = (.ok (), state) := fun _ _ => rfl
  rw [runPhase, Procedure.run_bind, noPlugin]
  simp only
  rw [Procedure.run_bind, run_perform]
  rcases ((phase.run host tree).run.run state.scan).1 with error | answer
  · rfl
  · exact noPlugin _ _

theorem run_forM_cons_ok {host : Host} {tree : FileTree} {phase : Phase} {phases : List Phase}
    {scan after : Scan} (done : (phase.run host tree).run.run scan = (.ok (), after))
    (begun : List (Step × Scan)) :
    (List.forM (phase :: phases) (runPhase host tree [])).run.run ⟨scan, begun⟩ =
      (List.forM phases (runPhase host tree [])).run.run
        ⟨after, (.body phase, scan) :: begun⟩ := by
  rw [List.forM_eq_forM, List.forM_cons, Procedure.run_bind, run_runPhase, done]

end Pipeline

namespace Scan

/-- The notes of the checks are recorded, be it that these fail. -/
theorem snd_run_validate (lints : List Lint) (scan : Scan) :
    ((validate lints).run.run scan).2 = scan.checked lints := by
  rw [validate, Procedure.run_bind, Procedure.run_modify]
  simp only
  rw [Procedure.run_bind, Procedure.run_get]
  simp only
  split <;> rfl

theorem run_validate (lints : List Lint) {scan : Scan}
    (fine : (scan.checked lints).hasErrors = false) :
    (validate lints).run.run scan = (.ok (), scan.checked lints) := by
  rw [validate, Procedure.run_bind, Procedure.run_modify]
  simp only
  rw [Procedure.run_bind, Procedure.run_get]
  rw [checked] at fine
  simp only [fine]
  rfl

end Scan

theorem Scan.run_load (access : Access) (tree : FileTree) (settings : ScanSettings) :
    (Scan.load access tree).run.run (Scan.start settings) =
      match tree.discover access settings.root ⟨settings.extensions, settings.exclude⟩ with
      | some found => (.ok (), (Scan.start settings).loaded found)
      | none => (.error (.during (.scanning settings.root) (.missingRoot settings.root)),
          Scan.start settings) := by
  rw [load, Procedure.run_bind, Procedure.run_get]
  simp only [start]
  rcases tree.discover access settings.root ⟨settings.extensions, settings.exclude⟩ with
    _ | found <;> rfl

/-- A scan finds what the files below its root hold, and fails only where there is no root. -/
theorem scanTree_eq (host : Host) (tree : FileTree) (settings : ScanSettings) :
    scanTree host tree settings =
      match tree.discover host.access settings.root ⟨settings.extensions, settings.exclude⟩ with
      | some found => .ok (Scan.ofDiscovery host.parser settings found)
      | none => .error (.during .pipeline
          (.during (.scanning settings.root) (.missingRoot settings.root))) := by
  have load := Scan.run_load host.access tree settings
  rw [scanTree, Pipeline.run, Pipeline.runPhases, Phase.all]
  rcases discovered : tree.discover host.access settings.root
    ⟨settings.extensions, settings.exclude⟩ with _ | found <;> rw [discovered] at load
  · have failed : (Phase.run host tree .load).run.run (Scan.start settings) =
        (.error (.during (.scanning settings.root) (.missingRoot settings.root)),
          Scan.start settings) := load
    rw [List.forM_eq_forM, List.forM_cons, Procedure.run_bind, Pipeline.run_runPhase, failed]
    rfl
  · have loaded : (Phase.run host tree .load).run.run (Scan.start settings) =
        (.ok (), (Scan.start settings).loaded found) := load
    have validated : (Phase.run host tree .validate).run.run
        (((Scan.start settings).loaded found).parse host.parser).collect = (.ok (), _) :=
      Scan.run_validate Lint.defaults (Scan.hasErrors_of_discovery host.parser settings found)
    rw [Pipeline.run_forM_cons_ok loaded, Pipeline.run_forM_cons_ok rfl,
      Pipeline.run_forM_cons_ok rfl, Pipeline.run_forM_cons_ok validated,
      Pipeline.run_forM_cons_ok rfl, Pipeline.run_forM_cons_ok rfl]
    rfl

end Registrar
