import Registrar.Artifact.Fragment
import Registrar.Failure
import Registrar.Manifest.Basic
import Registrar.Scan.Diagnostic
import Registrar.Source.Unit

/-!
Scans. A scan holds what has been found out so far; its phases fill it in one after another.
-/

set_option autoImplicit false

namespace Registrar

structure Scan where
  settings : ScanSettings
  marker : Marker
  /-- Files that are read but not parsed. -/
  sources : List SourceFile := []
  units : List SourceUnit := []
  findings : List Finding := []
  /-- Distinct names of the findings. -/
  names : List String := []
  fragments : Option Fragments := none
  diagnostics : List Diagnostic := []

namespace Scan

def start (settings : ScanSettings) : Scan :=
  { settings := settings, marker := ⟨settings.marker⟩ }

def addDiagnostic (scan : Scan) (diagnostic : Diagnostic) : Scan :=
  { scan with diagnostics := scan.diagnostics ++ [diagnostic] }

def addWarning (scan : Scan) (phase message : String) : Scan :=
  scan.addDiagnostic { severity := .warning, phase := phase, message := message }

def warnings (scan : Scan) : List Diagnostic := scan.diagnostics.filter Diagnostic.isWarning

def errorCount (scan : Scan) : Nat := scan.diagnostics.countP Diagnostic.isError

def warningCount (scan : Scan) : Nat := scan.diagnostics.countP Diagnostic.isWarning

def hasErrors (scan : Scan) : Bool := scan.diagnostics.any Diagnostic.isError

def hasWarnings (scan : Scan) : Bool := scan.diagnostics.any Diagnostic.isWarning

end Scan

/-- Procedures on a scan that may fail. What they have changed stays changed when they fail. -/
abbrev ScanM (α : Type) := ExceptT Failure (StateM Scan) α

namespace Scan

def takeFragments : ScanM Fragments := do
  match (← get).fragments with
  | some fragments =>
      modify fun scan => { scan with fragments := none }
      return fragments
  | none => throw .noFragments

end Scan

end Registrar
