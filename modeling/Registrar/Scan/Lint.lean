import Registrar.Names
import Registrar.Scan.Diagnostic
import Registrar.Scan.Finding

/-!
Lints: what looks suspicious in the findings of a scan. None of them takes a finding away.
-/

set_option autoImplicit false

namespace Registrar

inductive Lint where
  /-- A type opted in through an attribute that only resembles the handler's own. -/
  | nearMiss
  /-- A type whose name counts as that of an earlier one. -/
  | duplicateName
deriving DecidableEq, Repr

namespace Lint

def name : Lint → String
  | .nearMiss => "near-miss"
  | .duplicateName => "duplicate-name"

def defaults : List Lint := [.nearMiss, .duplicateName]

def phase : String := "validate"

/-- The attribute names that the handler declares. -/
def canonicalNames : List String := ["JsonAot", "JsonAotAttribute"]

/-- Whether the attribute is the handler's own, qualified or not, in any case. -/
def isCanonical (attr : String) : Bool :=
  canonicalNames.any fun canonical => Text.eqIgnoreCase canonical (simpleName attr)

def nearMissDiagnostic (finding : Finding) : Diagnostic where
  severity := .warning
  phase := phase
  message := "type '" ++ finding.name ++ "' qualified through attribute '" ++
    finding.attr ++ "', not [JsonAot]"
  location := some finding.location

def nearMisses (findings : List Finding) : List Diagnostic :=
  (findings.filter fun finding => !isCanonical finding.attr).map nearMissDiagnostic

def duplicateDiagnostic (kept finding : Finding) : Diagnostic where
  severity := .info
  phase := phase
  message := "type '" ++ finding.name ++ "' shares its name with '" ++ kept.name ++ "' at " ++
    kept.location ++ "; only the first is registered"
  location := some finding.location

/-- Notes for the findings whose name is that of one among `kept` or of an earlier finding. -/
def duplicatesAfter (kept : List Finding) : List Finding → List Diagnostic
  | [] => []
  | finding :: rest =>
      match kept.find? fun other => Text.foldCase other.name == Text.foldCase finding.name with
      | some first => duplicateDiagnostic first finding :: duplicatesAfter kept rest
      | none => duplicatesAfter (finding :: kept) rest

def check : Lint → List Finding → List Diagnostic
  | .nearMiss => nearMisses
  | .duplicateName => duplicatesAfter []

end Lint

end Registrar
