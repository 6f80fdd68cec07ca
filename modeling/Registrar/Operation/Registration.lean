import Registrar.Artifact.Writer
import Registrar.Operation.Listing
import Registrar.Report.RunReport

/-!
Registration: a scan whose names are put into the handler.
-/

set_option autoImplicit false

namespace Registrar

structure RunOptions where
  artifact : Path
  mode : WriteMode
  /-- Whether the handler is only rendered. -/
  dryRun : Bool := false
deriving DecidableEq

/-- Scans the tree and writes the handler, or renders it. -/
def register (host : Host) (settings : ScanSettings) (options : RunOptions) :
    FileM Failure RunReport := do
  let scan ← FileM.ask fun tree => scanTree host tree settings
  let (fragments, scan) ← match Scan.takeFragments.run.run scan with
    | (.ok fragments, scan) => pure (fragments, scan)
    | (.error failure, _) => throw failure
  let report : RunReport :=
    ⟨options.artifact, options.mode, scan.units.length, scan.names, scan.diagnostics, none⟩
  if options.dryRun then
    let text ← (FileM.ask fun tree =>
        previewArtifact tree options.artifact fragments options.mode).during
      fun error => .during .renderingArtifact (.artifact error)
    return { report with preview := some text }
  else
    (writeArtifact options.artifact options.mode fragments).during
      fun error => .during .updatingArtifact (.artifact error)
    return report

end Registrar
