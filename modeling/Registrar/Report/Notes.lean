import Registrar.Report.Display
import Registrar.Scan.Diagnostic

/-!
Diagnostics in reports.
-/

set_option autoImplicit false

namespace Registrar

def diagnosticCalls (diagnostics : List Diagnostic) : List Call :=
  let warnings := diagnostics.filter Diagnostic.isWarning
  let notes := diagnostics.filter Diagnostic.isInfo
  warnings.map (fun diagnostic => Call.warning diagnostic.located) ++
    if notes.isEmpty then []
    else
      [.section "Notes"] ++ notes.map (fun diagnostic => Call.listItem diagnostic.located) ++
        [.newline]

end Registrar
