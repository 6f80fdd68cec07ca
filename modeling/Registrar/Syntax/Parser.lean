import Registrar.Syntax.Node

/-!
Parsers of source texts. What a text is taken for is the parser's to say: it finds a tree in every
text, be there errors in it or not.
-/

set_option autoImplicit false

namespace Registrar

structure ParsedText where
  tree : SyntaxNode
  /-- Whether the text has syntax errors. -/
  hasError : Bool

abbrev SourceParser := String → ParsedText

end Registrar
