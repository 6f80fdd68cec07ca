import Registrar.Syntax.Operand
import Registrar.Syntax.Outline
import Registrar.Syntax.Parser

/-!
The parser of the program: it reads the outline of a text.
-/

set_option autoImplicit false

namespace Registrar

def outlineParser : SourceParser := fun text =>
  let lexed := Syntax.lex text.toList
  let outline := Syntax.Outline.ofTokens lexed.tokens
  ⟨outline.tree, outline.broken || lexed.openComment || Syntax.hasClash lexed.tokens⟩

end Registrar
