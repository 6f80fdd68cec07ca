import Registrar.EntryPoint
import Registrar.GeneratedFile
import Registrar.Report.Display

/-!
The report of a setup.
-/

set_option autoImplicit false

namespace Registrar

structure SetupReport where
  artifact : Path
  /-- The entry point and what became of it, if it was to get import lines. -/
  imports : Option (Path × ImportOutcome)
  /-- The manifest and what became of it, if one was to be written. -/
  config : Option (Path × WriteResult)
deriving DecidableEq

namespace SetupReport

def importCall (path : Path) : ImportOutcome → Call
  | .added => .addedItem (path.text ++ " now imports JSONHandler")
  | .alreadyPresent => .listItem (path.text ++ " already imports JSONHandler")
  | .missing => .warning (path.text ++ " not found, imports not added")

def configCall (path : Path) : WriteResult → Call
  | .written => .addedItem (path.text ++ " created")
  | .skipped => .listItem (path.text ++ " exists, left unchanged")

def calls (report : SetupReport) : List Call :=
  .addedItem (report.artifact.text ++ " created") ::
    (report.imports.map fun (path, outcome) => importCall path outcome).toList ++
    (report.config.map fun (path, result) => configCall path result).toList

end SetupReport

end Registrar
