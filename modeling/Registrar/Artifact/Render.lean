import Registrar.Artifact.Fragment
import Registrar.Artifact.Template

/-!
A handler written anew: the fixed text with the rows and context classes of all fragments.
-/

set_option autoImplicit false

namespace Registrar

def renderArtifact (fragments : Fragments) : String :=
  let rows := ((CodeBuilder.new .tab).raw Template.opening).deeper.lines
    (fragments.entries.map Fragment.text)
  let classes := (rows.shallower.raw Template.middle).lines (fragments.contexts.map Fragment.text)
  (classes.raw Template.closing).text

end Registrar
