/-!
Diagnostics: what a scan finds worth telling without giving up.
-/

set_option autoImplicit false

namespace Registrar

inductive Severity where
  /-- The scan fails when its findings are checked. -/
  | error
  /-- The user is warned and the scan goes on. -/
  | warning
  | info
deriving DecidableEq, Repr

namespace Severity

def name : Severity → String
  | .error => "error"
  | .warning => "warning"
  | .info => "info"

instance : ToString Severity := ⟨name⟩

def ofName? : String → Option Severity
  | "error" => some .error
  | "warning" => some .warning
  | "info" => some .info
  | _ => none

@[simp]
theorem ofName?_name (severity : Severity) : ofName? severity.name = some severity := by
  cases severity <;> rfl

end Severity

/-- A message of a phase, about a file or a line of it. -/
structure Diagnostic where
  severity : Severity
  phase : String
  message : String
  location : Option String := none
deriving DecidableEq, Repr

namespace Diagnostic

def isError (diagnostic : Diagnostic) : Bool := diagnostic.severity == .error

def isWarning (diagnostic : Diagnostic) : Bool := diagnostic.severity == .warning

def isInfo (diagnostic : Diagnostic) : Bool := diagnostic.severity == .info

def display (diagnostic : Diagnostic) : String :=
  let head := diagnostic.severity.name ++ ": " ++ diagnostic.message
  match diagnostic.location with
  | some location => head ++ " (at " ++ location ++ ")"
  | none => head

def located (diagnostic : Diagnostic) : String :=
  match diagnostic.location with
  | some location => location ++ ": " ++ diagnostic.message
  | none => diagnostic.message

end Diagnostic

end Registrar
