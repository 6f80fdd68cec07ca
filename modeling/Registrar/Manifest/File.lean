import Registrar.FileTree.Resolve
import Registrar.Manifest.Read

/-!
Manifests in files.
-/

set_option autoImplicit false

namespace Registrar

structure ManifestFile where
  path : Path
  manifest : Manifest
  /-- Whether the settings come from the file; else they are the defaults. -/
  loaded : Bool
deriving DecidableEq

namespace ManifestFile

def read (tree : FileTree) (path : Path) : Except ManifestError ManifestFile :=
  match tree.readText path with
  | .error cause => .error (.unreadable path cause)
  | .ok source => (Manifest.read source).map fun manifest => ⟨path, manifest, true⟩

def readOrDefault (tree : FileTree) (path : Path) : Except ManifestError ManifestFile :=
  if tree.pathExists path then read tree path else .ok ⟨path, { }, false⟩

end ManifestFile

end Registrar
