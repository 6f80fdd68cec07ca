import Registrar.FileTree.Access
import Registrar.Syntax.OutlineParser

/-!
What a scan needs from around it beside the files: a parser, and access to what stands in a tree.
-/

set_option autoImplicit false

namespace Registrar

structure Host where
  parser : SourceParser
  access : Access

/-- What the program scans with. -/
def Host.standard : Host := ⟨outlineParser, .ofPathLimit⟩

end Registrar
