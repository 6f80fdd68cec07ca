import Registrar.FileTree.Error
import Registrar.Manifest.Decode
import Registrar.Manifest.Span
import Registrar.Text.Blank
import Registrar.Toml.Document

/-!
Reading a manifest. A text gives a manifest when it is a TOML document, its table holds a manifest,
and the settings can drive a scan.
-/

set_option autoImplicit false

namespace Registrar

/-- Settings that cannot drive a scan. -/
inductive Fault where
  | blankMarker
  | noExtensions
  | dottedExtension (extension : String)
  | emptyArtifact
deriving DecidableEq, Repr

namespace Fault

def key : Fault → String
  | .blankMarker => "marker"
  | .noExtensions => "extensions"
  | .dottedExtension _ => "extensions"
  | .emptyArtifact => "artifact"

def message : Fault → String
  | .blankMarker => "marker must not be empty"
  | .noExtensions => "at least one file extension is required"
  | .dottedExtension extension => "extension '" ++ extension ++ "' must not start with a dot"
  | .emptyArtifact => "artifact path must not be empty"

end Fault

inductive ManifestError where
  | unreadable (path : Path) (cause : FileError)
  | unparsable
  | invalid (fault : Fault) (span : Option Span)
deriving DecidableEq

def ManifestError.help : String :=
  "run 'jsonaot setup --with-config' to create a default jsonaot.toml"

def ManifestError.message : ManifestError → String
  | .unreadable path _ => "failed to read '" ++ path.text ++ "'"
  | .unparsable => "failed to parse jsonaot.toml"
  | .invalid fault _ => fault.message

namespace Manifest

def fault? (manifest : Manifest) : Option Fault :=
  if (Text.trim manifest.scan.marker).isEmpty then some .blankMarker
  else if manifest.scan.extensions.isEmpty then some .noExtensions
  else
    match manifest.scan.extensions.find? fun extension => extension.toList.head? == some '.' with
    | some extension => some (.dottedExtension extension)
    | none => if manifest.output.artifact.text.isEmpty then some .emptyArtifact else none

def check (manifest : Manifest) (source : String) : Except ManifestError Manifest :=
  match manifest.fault? with
  | some fault => .error (.invalid fault (keySpan? source fault.key))
  | none => .ok manifest

def read (source : String) : Except ManifestError Manifest :=
  match (Toml.read? source).bind ofEntries? with
  | some manifest => manifest.check source
  | none => .error .unparsable

end Manifest

end Registrar
