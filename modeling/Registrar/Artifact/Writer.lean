import Registrar.Artifact.Error
import Registrar.Artifact.Render
import Registrar.Artifact.Splice
import Registrar.FileTree.Replace
import Registrar.Manifest.Basic

/-!
Writing a handler: anew, or by adding to the one that is there.
-/

set_option autoImplicit false

namespace Registrar

/-- The text that the handler at the path would have. Fragments are added to the existing text only
in append mode. -/
def previewArtifact (tree : FileTree) (path : Path) (fragments : Fragments) :
    WriteMode → Except ArtifactError String
  | .overwrite => .ok (renderArtifact fragments)
  | .append =>
      match tree.readText path with
      | .error cause => .error (.unreadable path cause)
      | .ok existing =>
          match splice existing fragments with
          | .error anchor => .error (.missingAnchor path anchor)
          | .ok text => .ok text

def writeArtifact (path : Path) (mode : WriteMode) (fragments : Fragments) :
    FileM ArtifactError Unit := do
  let text ← FileM.ask fun tree => previewArtifact tree path fragments mode
  (replaceFile path text).during (.unwritable path)

end Registrar
