import Registrar.Manifest.Basic
import Registrar.Report.Notes

/-!
The report of a run.
-/

set_option autoImplicit false

namespace Registrar

structure RunReport where
  artifact : Path
  mode : WriteMode
  files : Nat
  /-- The registered names in the order of the handler. -/
  names : List String
  diagnostics : List Diagnostic
  /-- The text of the handler, if the run was not to write it. -/
  preview : Option String := none
deriving DecidableEq

namespace RunReport

def writtenCalls (report : RunReport) : List Call :=
  [.keyValue "Scanned" (toString report.files ++ " file(s)")] ++
    (if report.names.isEmpty then [.preformatted "No [JsonAot] types found."]
    else .section "Registered" :: report.names.map .addedItem) ++
    [.newline,
      .preformatted
        (report.artifact.text ++ " updated successfully (" ++ report.mode.name ++ " mode)")]

def previewCalls (report : RunReport) (text : String) : List Call :=
  [.divider report.artifact.text, .preformatted text, .divider "Summary",
    .preformatted
      (toString report.names.length ++ " type(s) would be written (" ++ report.mode.name ++
        " mode)")]

def calls (report : RunReport) : List Call :=
  diagnosticCalls report.diagnostics ++
    match report.preview with
    | some text => report.previewCalls text
    | none => report.writtenCalls

end RunReport

end Registrar
