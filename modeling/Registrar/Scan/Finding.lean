import Registrar.Decl.Walk
import Registrar.Path

/-!
Findings: marked types with the place where they are declared.
-/

set_option autoImplicit false

namespace Registrar

structure Finding where
  name : String
  space : String
  kind : TypeKind
  /-- The attribute that opted the type in, as written. -/
  attr : String
  path : Path
  line : Nat
deriving DecidableEq

namespace Finding

def ofMatch (path : Path) (found : Match) : Finding where
  name := found.decl.name
  space := found.space
  kind := found.decl.kind
  attr := found.attr.name
  path := path
  line := found.decl.line

def location (finding : Finding) : String :=
  finding.path.text ++ ":" ++ toString finding.line

def qualifiedName (finding : Finding) : String :=
  if finding.space.isEmpty then finding.name else finding.space ++ "." ++ finding.name

end Finding

end Registrar
