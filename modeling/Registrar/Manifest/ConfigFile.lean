import Registrar.GeneratedFile
import Registrar.Text.Lines

/-!
The manifest that is written for a new project: every setting with its default and a comment.
-/

set_option autoImplicit false

namespace Registrar

def manifestName : Path := ⟨"jsonaot.toml"⟩

def configLines : List String :=
  ["# jsonaot configuration. Every key is optional.",
    "",
    "[scan]",
    "# Directory scanned recursively for source files",
    "root = \".\"",
    "# File extensions to scan, without the leading dot",
    "extensions = [\"cs\"]",
    "# Directory names skipped anywhere in the tree",
    "exclude = [\"bin\", \"obj\"]",
    "# Attributes whose name contains this token opt a type in (case-insensitive)",
    "marker = \"JsonA\"",
    "",
    "[output]",
    "# Generated handler",
    "artifact = \"JSONHandler.cs\"",
    "# File that receives the global using lines with `jsonaot setup -s`",
    "entry_point = \"Program.cs\"",
    "# Default for `jsonaot run`: \"overwrite\" or \"append\"",
    "mode = \"overwrite\""]

def configFile (name : Path) (rule : OverwriteRule) : GeneratedFile where
  name := name
  text := Text.unlines configLines
  rule := rule

end Registrar
