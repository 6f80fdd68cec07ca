import Registrar.CommandLine.Invocation
import Registrar.Manifest.ConfigFile
import Registrar.Manifest.File
import Registrar.Operation.Registration
import Registrar.Operation.Setup

/-!
Carrying out what a command line asks for.
-/

set_option autoImplicit false

namespace Registrar.CommandLine

inductive CommandError where
  | manifest (error : ManifestError)
  | operation (failure : Failure)
deriving DecidableEq

def CommandError.chain : CommandError → List String
  | .manifest error =>
      match error with
      | .unreadable _ cause => [error.message, cause.message]
      | _ => [error.message]
  | .operation failure => failure.chain

structure Ending where
  exitCode : Nat
  written : Written
deriving DecidableEq

/-- The manifest that the command line names, or the usual one if it is there. -/
def Invocation.manifestFile (invocation : Invocation) (tree : FileTree) :
    Except ManifestError ManifestFile :=
  match invocation.config with
  | some path => ManifestFile.read tree path
  | none => ManifestFile.readOrDefault tree manifestName

def withRoot (settings : ScanSettings) : Option Path → ScanSettings
  | some root => { settings with root := root }
  | none => settings

def Command.perform (host : Host) (file : ManifestFile) : Command → FileM Failure Written
  | .setup entryPoint withConfig artifact => do
      let report ← setUp file.manifest
        { artifact := artifact
          entryPoint := entryPoint
          config := if withConfig then some file.path else none }
      return writeCalls report.calls
  | .run mode root artifact dryRun => do
      let report ← register host (withRoot file.manifest.scan root)
        { artifact := artifact.getD file.manifest.output.artifact
          mode := mode.getD file.manifest.output.mode
          dryRun := dryRun }
      return writeCalls report.calls
  | .list root format => do
      let report ← FileM.ask fun tree => listTypes host tree (withRoot file.manifest.scan root)
      match format with
      | .text => return writeCalls report.calls
      | .json => return { out := report.toJson.print ++ "\n" }
  | .completions _ => return { }

def Invocation.perform (host : Host) (invocation : Invocation) : FileM CommandError Written := do
  match invocation.command with
  | .completions _ => return { }
  | command =>
      let file ← (FileM.ask invocation.manifestFile).during .manifest
      (command.perform host file).during .operation

def Invocation.execute (host : Host) (invocation : Invocation) : StateM FileTree Ending := do
  match ← (invocation.perform host).run with
  | .ok written => return ⟨0, written⟩
  | .error error => return ⟨1, { err := "Error: " ++ "\n".intercalate error.chain ++ "\n" }⟩

end Registrar.CommandLine
