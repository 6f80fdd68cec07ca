import Registrar.Json.Printer
import Registrar.Report.Notes
import Registrar.Scan.Finding

/-!
The report of a listing.
-/

set_option autoImplicit false

namespace Registrar

structure ListReport where
  files : Nat
  /-- All marked types, also those whose names count as one. -/
  types : List Finding
  /-- The names that would be registered. -/
  names : List String
  diagnostics : List Diagnostic
deriving DecidableEq

def Finding.toJson (finding : Finding) : Json.Value :=
  .object
    [("name", .string finding.name), ("namespace", .string finding.space),
      ("kind", .string finding.kind.keyword), ( "annotation", .string finding.attr),
      ("path", .string finding.path.text), ("line", .number finding.line)]

def Diagnostic.toJson (diagnostic : Diagnostic) : Json.Value :=
  .object
    [("severity", .string diagnostic.severity.name), ("phase", .string diagnostic.phase),
      ("message", .string diagnostic.message),
      ("location", .ofOption .string diagnostic.location)]

namespace ListReport

def toJson (report : ListReport) : Json.Value :=
  .object
    [("files", .number report.files), ("types", .ofList Finding.toJson report.types),
      ("names", .ofList .string report.names),
      ("diagnostics", .ofList Diagnostic.toJson report.diagnostics)]

def itemText (finding : Finding) : String :=
  finding.kind.keyword ++ " " ++ finding.qualifiedName ++ " [" ++ finding.attr ++ "] (" ++
    finding.location ++ ")"

def calls (report : ListReport) : List Call :=
  diagnosticCalls report.diagnostics ++
    if report.types.isEmpty then
      [.preformatted ("No [JsonAot] types found in " ++ toString report.files ++ " file(s)")]
    else
      [.section ("Types (" ++ toString report.types.length ++ ")")] ++
        report.types.map (fun finding => .listItem (itemText finding)) ++
        [.newline, .keyValue "Registered names" (", ".intercalate report.names)]

end ListReport

end Registrar
