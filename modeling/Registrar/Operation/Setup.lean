import Registrar.Artifact.Writer
import Registrar.Manifest.ConfigFile
import Registrar.Report.SetupReport

/-!
Setup: an empty handler, and on demand the import lines and a manifest.
-/

set_option autoImplicit false

namespace Registrar

structure SetupOptions where
  /-- The handler, if it is not the one of the manifest. -/
  artifact : Option Path := none
  /-- Whether the entry point gets import lines. -/
  entryPoint : Bool := false
  /-- Where a manifest is written if there is none. -/
  config : Option Path := none
deriving DecidableEq

/-- Writes a handler without names, so that names can be added later, and what else is asked for. -/
def setUp (manifest : Manifest) (options : SetupOptions) : FileM Failure SetupReport := do
  let artifact := options.artifact.getD manifest.output.artifact
  (writeArtifact artifact .overwrite Fragments.empty).during
    fun error => .during .creatingArtifact (.artifact error)
  let imports ←
    if options.entryPoint then do
      let outcome ← addImports manifest.output.entryPoint
      pure (some (manifest.output.entryPoint, outcome))
    else pure none
  let config ← match options.config with
    | some path => do
        let result ← ((configFile path .ifMissing).write ⟨""⟩).during (.during .writingConfig)
        pure (some (path, result))
    | none => pure none
  return ⟨artifact, imports, config⟩

end Registrar
