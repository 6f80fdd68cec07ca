import Registrar.Host
import Registrar.Scan.Basic
import Registrar.Scan.Lint
import Registrar.Source.Discovery

/-!
The phases of a scan, in their order: files are loaded and parsed, marked types are collected and
checked, their names are made distinct, and fragments are made for the names.
-/

set_option autoImplicit false

namespace Registrar

inductive Phase where
  | load
  | parse
  | collect
  | validate
  | dedup
  | synthesize
deriving DecidableEq, Repr

namespace Phase

def name : Phase → String
  | .load => "load"
  | .parse => "parse"
  | .collect => "collect"
  | .validate => "validate"
  | .dedup => "dedup"
  | .synthesize => "synthesize"

def all : List Phase := [.load, .parse, .collect, .validate, .dedup, .synthesize]

end Phase

namespace Scan

def loadWarning (failure : SourceFailure) : Diagnostic where
  severity := .warning
  phase := Phase.load.name
  message := failure.message
  location := some failure.path.text

def load (access : Access) (tree : FileTree) : ScanM Unit := do
  let scan ← get
  let filter : SourceFilter := ⟨scan.settings.extensions, scan.settings.exclude⟩
  match tree.discover access scan.settings.root filter with
  | some found =>
      set { scan with
        sources := found.files
        diagnostics := scan.diagnostics ++ found.failures.map loadWarning }
  | none => throw (.during (.scanning scan.settings.root) (.missingRoot scan.settings.root))

def unitWarning (unit : SourceUnit) (message : String) : Diagnostic where
  severity := .warning
  phase := Phase.parse.name
  message := message
  location := some unit.path.text

def unitWarnings (unit : SourceUnit) : List Diagnostic :=
  (if unit.lossy then
      [unitWarning unit "file is not valid UTF-8; invalid bytes were replaced"]
    else []) ++
    (if unit.recovered then
      [unitWarning unit "file has syntax errors; declarations were recovered where possible"]
    else [])

def parse (parser : SourceParser) (scan : Scan) : Scan :=
  let units := scan.sources.map (SourceFile.read parser)
  { scan with
    sources := []
    units := scan.units ++ units
    diagnostics := scan.diagnostics ++ units.flatMap unitWarnings }

def collect (scan : Scan) : Scan :=
  { scan with findings := scan.units.flatMap fun unit => unit.findings scan.marker }

/-- Checks the findings. Diagnostics that are errors, whoever recorded them, make this fail. -/
def validate (lints : List Lint) : ScanM Unit := do
  modify fun scan =>
    { scan with
      diagnostics := scan.diagnostics ++ lints.flatMap fun lint => lint.check scan.findings }
  let scan ← get
  if scan.hasErrors then throw (.invalid scan.errorCount)

def dedup (scan : Scan) : Scan :=
  { scan with names := distinctNames (scan.findings.map Finding.name) }

def synthesize (scan : Scan) : Scan :=
  { scan with fragments := some (Fragments.ofNames scan.names) }

end Scan

/-- What a phase does to a scan of the files in a tree. -/
def Phase.run (host : Host) (tree : FileTree) : Phase → ScanM Unit
  | .load => Scan.load host.access tree
  | .parse => modify (Scan.parse host.parser)
  | .collect => modify Scan.collect
  | .validate => Scan.validate Lint.defaults
  | .dedup => modify Scan.dedup
  | .synthesize => modify Scan.synthesize

end Registrar
