import Registrar.Decl.Basic
import Registrar.Text.Blank

/-!
Syntax trees, with the names, attributes and type declarations that their nodes give.
-/

set_option autoImplicit false

namespace Registrar

/-- A node of a syntax tree: its kind by the symbol of the grammar, the source text of its name if
it has one, the row where it begins, counted from zero, and the named nodes in it. -/
inductive SyntaxNode where
  | mk (kind : String) (name : Option String) (row : Nat) (children : List SyntaxNode)
deriving Repr

namespace SyntaxNode

def kind : SyntaxNode → String
  | mk kind _ _ _ => kind

def name : SyntaxNode → Option String
  | mk _ name _ _ => name

def row : SyntaxNode → Nat
  | mk _ _ row _ => row

def children : SyntaxNode → List SyntaxNode
  | mk _ _ _ children => children

/-- The name without blanks; a node without a name has the empty one. -/
def compactName (node : SyntaxNode) : String :=
  (node.name.map Text.compact).getD ""

def attributes (nodes : List SyntaxNode) : List Attribute :=
  (nodes.filter fun list => list.kind == "attribute_list").flatMap fun list =>
    (list.children.filter fun node => node.kind == "attribute").filterMap fun node =>
      node.name.map fun name => ⟨Text.compact name⟩

/-- The declaration of a type node; one without a name declares nothing. -/
def typeDecl? (node : SyntaxNode) (kind : TypeKind) : Option TypeDecl :=
  if node.compactName.isEmpty then none
  else some ⟨node.compactName, kind, attributes node.children, node.row + 1⟩

end SyntaxNode

end Registrar
