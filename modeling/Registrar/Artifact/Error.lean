import Registrar.Artifact.Anchor
import Registrar.FileTree.Error
import Registrar.Path

/-!
Failures to produce or update a handler.
-/

set_option autoImplicit false

namespace Registrar

inductive ArtifactError where
  /-- The existing handler has no line for one of the anchors. -/
  | missingAnchor (path : Path) (anchor : Anchor)
  | unreadable (path : Path) (cause : FileError)
  | unwritable (path : Path) (cause : FileError)
deriving DecidableEq

namespace ArtifactError

def path : ArtifactError → Path
  | .missingAnchor path _ => path
  | .unreadable path _ => path
  | .unwritable path _ => path

def cause? : ArtifactError → Option FileError
  | .missingAnchor _ _ => none
  | .unreadable _ cause => some cause
  | .unwritable _ cause => some cause

def message : ArtifactError → String
  | .missingAnchor path anchor =>
      "anchor '" ++ anchor.marker ++ "' not found in '" ++ path.text ++ "'"
  | .unreadable path _ => "failed to read '" ++ path.text ++ "'"
  | .unwritable path _ => "failed to write '" ++ path.text ++ "'"

end ArtifactError

end Registrar
