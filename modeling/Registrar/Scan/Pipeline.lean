import Registrar.Scan.Phase

/-!
Pipelines. A pipeline runs all phases over one scan. Its plugins see the scan before and after each
phase and may change it or refuse to go on; the first failure ends the run.
-/

set_option autoImplicit false

namespace Registrar

structure Plugin where
  name : String
  /-- What it does before a phase. -/
  before : Phase → ScanM Unit := fun _ => pure ()
  /-- What it does after a phase. -/
  after : Phase → ScanM Unit := fun _ => pure ()

inductive Step where
  | before (plugin : String) (phase : Phase)
  | body (phase : Phase)
  | after (plugin : String) (phase : Phase)
deriving DecidableEq, Repr

/-- A run under way: the scan, and the steps begun so far with the scan that each of them saw, the
latest first. -/
structure PipelineState where
  scan : Scan
  begun : List (Step × Scan) := []

abbrev PipelineM (α : Type) := ExceptT Failure (StateM PipelineState) α

namespace Pipeline

def perform (step : Step) (action : ScanM Unit) : PipelineM Unit :=
  ExceptT.mk do
    let state ← get
    let (result, scan) := action.run.run state.scan
    set { scan := scan, begun := (step, state.scan) :: state.begun : PipelineState }
    return result

def runPhase (host : Host) (tree : FileTree) (plugins : List Plugin) (phase : Phase) :
    PipelineM Unit := do
  plugins.forM fun plugin => perform (.before plugin.name phase) (plugin.before phase)
  perform (.body phase) (phase.run host tree)
  plugins.forM fun plugin => perform (.after plugin.name phase) (plugin.after phase)

def runPhases (host : Host) (tree : FileTree) (plugins : List Plugin) : PipelineM Unit :=
  Phase.all.forM (runPhase host tree plugins)

/-- What a run has come to: the finished scan or the failure that ended it, and the steps begun
with the scan that each of them saw. -/
structure Outcome where
  result : Except Failure Scan
  trace : List (Step × Scan)

def run (host : Host) (tree : FileTree) (plugins : List Plugin) (settings : ScanSettings) :
    Outcome :=
  let (result, state) := (runPhases host tree plugins).run.run { scan := Scan.start settings }
  { result := result.map fun _ => state.scan
    trace := state.begun.reverse }

end Pipeline

end Registrar
