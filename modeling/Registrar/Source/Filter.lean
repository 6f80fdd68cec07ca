import Registrar.Path
import Registrar.Text.Case

/-!
Which files and directories take part in a scan.
-/

set_option autoImplicit false

namespace Registrar

/-- The extensions that are read and the directory names that are passed over. -/
structure SourceFilter where
  extensions : List String := ["cs"]
  exclude : List String := ["bin", "obj"]
deriving DecidableEq, Inhabited

namespace SourceFilter

def acceptsExtension (filter : SourceFilter) (extension : String) : Bool :=
  filter.extensions.any fun accepted => Text.eqIgnoreCase accepted extension

def acceptsName (filter : SourceFilter) (name : FileName) : Bool :=
  (name.extension?.bind FileName.text?).any filter.acceptsExtension

def accepts (filter : SourceFilter) (path : Path) : Bool :=
  path.fileName?.any filter.acceptsName

def skips (filter : SourceFilter) (name : FileName) : Bool :=
  name.text?.any filter.exclude.contains

end SourceFilter

end Registrar
