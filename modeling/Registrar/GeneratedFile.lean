import Registrar.Failure
import Registrar.FileTree.Replace

/-!
Generated files and the rules by which they are written.
-/

set_option autoImplicit false

namespace Registrar

/-- What happens to a file that is there already. -/
inductive OverwriteRule where
  /-- The file belongs to the generator and is written anew. -/
  | always
  /-- The file belongs to the user and is left alone. -/
  | ifMissing
deriving DecidableEq, Repr, Inhabited

inductive WriteResult where
  | written
  | skipped
deriving DecidableEq, Repr

structure GeneratedFile where
  name : Path
  text : String
  rule : OverwriteRule := .always
deriving DecidableEq

namespace GeneratedFile

def path (file : GeneratedFile) (base : Path) : Path := base.join file.name

def write (file : GeneratedFile) (base : Path) : FileM Failure WriteResult := do
  let path := file.path base
  if file.rule = .ifMissing ∧ (← get).pathExists path then return .skipped
  (replaceFile path file.text).during fun error => .during (.writing path) (.file error)
  return .written

end GeneratedFile

end Registrar
