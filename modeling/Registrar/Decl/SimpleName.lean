import Registrar.Text.Blank
import Registrar.Text.Search

/-!
Simple names. A name may be qualified by namespaces, with dots or double colons, and may carry
type arguments; its simple name is the last identifier alone.
-/

set_option autoImplicit false

namespace Registrar

/-- The last identifier of a name, without qualifier and type arguments. -/
def simpleName (name : String) : String :=
  let unapplied := Text.trimChars (name.toList.takeWhile (· != '<'))
  let unaliased := Text.afterLast [':', ':'] unapplied
  String.ofList (Text.trimChars (Text.afterLast ['.'] unaliased))

end Registrar
