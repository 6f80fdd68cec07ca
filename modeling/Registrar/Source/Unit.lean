import Registrar.Scan.Finding
import Registrar.Syntax.Lowering
import Registrar.Syntax.Parser
import Registrar.Text.Utf8

/-!
Source files and what is read from them. Every file gives a unit: bytes that are no text are
replaced, and text with syntax errors gives the declarations that are complete.
-/

set_option autoImplicit false

namespace Registrar

structure SourceFile where
  path : Path
  bytes : ByteArray

structure SourceUnit where
  path : Path
  /-- The namespace of the whole file. -/
  root : Namespace
  /-- Whether the text has syntax errors. -/
  recovered : Bool
  /-- Whether some bytes had to be replaced. -/
  lossy : Bool

def Text.withoutMark (text : String) : String :=
  match text.toList with
  | '\uFEFF' :: rest => String.ofList rest
  | _ => text

def SourceFile.read (parser : SourceParser) (file : SourceFile) : SourceUnit :=
  let decoded := Text.decode file.bytes
  let parsed := parser (Text.withoutMark decoded.text)
  ⟨file.path, .ofMembers parsed.tree.members, parsed.hasError, decoded.lossy⟩

namespace SourceUnit

def walk (unit : SourceUnit) (marker : Marker) : Walk := Walk.start unit.root marker

def findings (unit : SourceUnit) (marker : Marker) : List Finding :=
  (unit.walk marker).toList.map (Finding.ofMatch unit.path)

end SourceUnit

end Registrar
