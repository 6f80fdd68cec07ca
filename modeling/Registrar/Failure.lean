import Registrar.Artifact.Error

/-!
Failures of operations. A failure tells what was under way and why it could not go on.
-/

set_option autoImplicit false

namespace Registrar

/-- What was under way when something failed. -/
inductive Activity where
  | pipeline
  | scanning (root : Path)
  | renderingArtifact
  | updatingArtifact
  | creatingArtifact
  | writingConfig
  | reading (path : Path)
  | writing (path : Path)
deriving DecidableEq

def Activity.message : Activity → String
  | .pipeline => "Pipeline failed"
  | .scanning root => "failed to scan '" ++ root.text ++ "'"
  | .renderingArtifact => "Failed to render the handler file"
  | .updatingArtifact => "Failed to update the handler file"
  | .creatingArtifact => "Failed to write the handler file"
  | .writingConfig => "Failed to write the config file"
  | .reading path => "failed to read '" ++ path.text ++ "'"
  | .writing path => "failed to write '" ++ path.text ++ "'"

inductive Failure where
  /-- Something failed in the course of an activity. -/
  | during (activity : Activity) (cause : Failure)
  | file (error : FileError)
  | artifact (error : ArtifactError)
  | missingRoot (root : Path)
  | invalid (errors : Nat)
  /-- Fragments were asked for before they were made. -/
  | noFragments
  /-- A plugin refused to go on. -/
  | refused (message : String)
deriving DecidableEq

namespace Failure

def chain : Failure → List String
  | .during activity cause => activity.message :: cause.chain
  | .file error => [error.message]
  | .artifact error => error.message :: (error.cause?.map FileError.message).toList
  | .missingRoot root => ["source root '" ++ root.text ++ "' is not a directory"]
  | .invalid errors => ["Validation failed with " ++ toString errors ++ " error(s)"]
  | .noFragments => ["fragments not set - did SynthesizePhase run?"]
  | .refused message => [message]

def root : Failure → Failure
  | .during _ cause => cause.root
  | failure => failure

end Failure

end Registrar
