import Registrar.Report.ListReport
import Registrar.Scan.Pipeline

/-!
Listing: a scan that writes nothing.
-/

set_option autoImplicit false

namespace Registrar

def scanTree (host : Host) (tree : FileTree) (settings : ScanSettings) : Except Failure Scan :=
  match (Pipeline.run host tree [] settings).result with
  | .ok scan => .ok scan
  | .error failure => .error (.during .pipeline failure)

def listTypes (host : Host) (tree : FileTree) (settings : ScanSettings) :
    Except Failure ListReport := do
  let scan ← scanTree host tree settings
  return ⟨scan.units.length, scan.findings, scan.names, scan.diagnostics⟩

end Registrar
