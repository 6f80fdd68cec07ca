import Registrar.Failure
import Registrar.FileTree.Replace
import Registrar.Text.Blank
import Registrar.Text.Lines

/-!
Import lines. The entry point of a program gets two lines in front that make the handler known
everywhere; its own lines are kept.
-/

set_option autoImplicit false

namespace Registrar

def staticImport : String := "global using static JSONHandler.JSONHandler;"

def namespaceImport : String := "global using JSONHandler;"

def importLines : List String :=
  [staticImport ++ " // Streamline serialization and deserialization", namespaceImport]

inductive ImportOutcome where
  | added
  | alreadyPresent
  | missing
deriving DecidableEq, Repr

/-- Whether both directives stand on lines of their own; a comment may follow the first one. -/
def hasImports (text : String) : Bool :=
  let lines := (Text.lines text).map Text.trim
  lines.any (fun line => staticImport.toList.isPrefixOf line.toList) &&
    lines.contains namespaceImport

def withImports (text : String) : String :=
  Text.unlines (importLines ++ Text.lines text)

def addImports (path : Path) : FileM Failure ImportOutcome := do
  match (← get).readText path with
  | .error .noEntry => return .missing
  | .error error => throw (.during (.reading path) (.file error))
  | .ok text =>
      if hasImports text then return .alreadyPresent
      (replaceFile path (withImports text)).during fun error =>
        .during (.writing path) (.file error)
      return .added

end Registrar
