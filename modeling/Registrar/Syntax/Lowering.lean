import Registrar.Syntax.Node

/-!
The declarations of a syntax tree. Namespaces and types are gathered that are reached without
entering a type. A namespace declared for the rest of its surroundings takes in what follows it
there, up to the next one of its kind. The nodes that are entered are kept on a stack, so that the
depth of the tree costs no call depth.
-/

set_option autoImplicit false

namespace Registrar

namespace SyntaxNode

/-- How the members gathered in a node belong to what is around it. -/
inductive Scope where
  /-- They are members of what is around the node. -/
  | inline
  /-- They are the members of a namespace. -/
  | block (name : String)
  /-- They are the first members of a namespace that what follows the node belongs to. -/
  | fileScoped (name : String)
deriving DecidableEq, Repr

def isConditional (symbol : String) : Bool := "preproc_".toList.isPrefixOf symbol.toList

/-- The scope that a node opens, if it is entered. -/
def scope? (node : SyntaxNode) : Option Scope :=
  match node.kind with
  | "namespace_declaration" => some (.block node.compactName)
  | "file_scoped_namespace_declaration" => some (.fileScoped node.compactName)
  | "declaration_list" | "ERROR" => some .inline
  | kind => if isConditional kind then some .inline else none

theorem sizeOf_children_lt (node : SyntaxNode) : sizeOf node.children < sizeOf node := by
  cases node
  simp only [children, SyntaxNode.mk.sizeOf_spec]
  omega

def decl? (node : SyntaxNode) : Option TypeDecl :=
  (TypeKind.ofGrammarSymbol? node.kind).bind node.typeDecl?

@[simp]
theorem scope?_symbol (kind : TypeKind) (name : Option String) (row : Nat)
    (children : List SyntaxNode) : (mk kind.symbol name row children).scope? = none := by
  have plain : isConditional kind.symbol = false := by cases kind <;> decide
  cases kind <;> exact if_neg (Bool.not_eq_true _ ▸ plain)

@[simp]
theorem decl?_symbol (kind : TypeKind) (name : Option String) (row : Nat)
    (children : List SyntaxNode) : (mk kind.symbol name row children).decl? =
      (mk kind.symbol name row children).typeDecl? kind := by
  cases kind <;> rfl

end SyntaxNode

/-- A node whose children are still being gathered from. `rest?` is the namespace that what follows
belongs to. -/
structure OpenNode where
  scope : SyntaxNode.Scope
  children : List SyntaxNode
  members : List Member := []
  rest? : Option (String × List Member) := none

namespace OpenNode

/-- Adds members where those of the next child belong. -/
def add (node : OpenNode) (found : List Member) : OpenNode :=
  match node.rest? with
  | some (name, members) => { node with rest? := some (name, members ++ found) }
  | none => { node with members := node.members ++ found }

def finish (node : OpenNode) : List Member :=
  node.members ++ (node.rest?.map fun (name, members) => Member.space name members).toList

/-- Adds the members of a child that has been entered. -/
def close (node : OpenNode) (scope : SyntaxNode.Scope) (found : List Member) : OpenNode :=
  match scope with
  | .inline => node.add found
  | .block name => node.add [.space name found]
  | .fileScoped name => { node with members := node.finish, rest? := some (name, found) }

/-- A bound on the steps that open nodes still need. -/
noncomputable def pending : List OpenNode → Nat
  | [] => 0
  | node :: outer => 1 + sizeOf node.children + pending outer

@[simp]
theorem children_add (node : OpenNode) (found : List Member) :
    (node.add found).children = node.children := by
  unfold add
  split <;> rfl

@[simp]
theorem children_close (node : OpenNode) (scope : SyntaxNode.Scope) (found : List Member) :
    (node.close scope found).children = node.children := by
  cases scope <;> simp [close]

/-- The members of the outermost of the open nodes, the innermost of which comes first. -/
def gather : List OpenNode → List Member
  | [] => []
  | node :: outer =>
      match _shape : node.children with
      | child :: rest =>
          let node := { node with children := rest }
          match child.scope? with
          | some scope => gather ({ scope := scope, children := child.children } :: node :: outer)
          | none => gather (node.add (child.decl?.map Member.type).toList :: outer)
      | [] =>
          match outer with
          | parent :: others => gather (parent.close node.scope node.finish :: others)
          | [] => node.finish
termination_by nodes => pending nodes
decreasing_by
  · have bound := child.sizeOf_children_lt
    simp only [pending, _shape, List.cons.sizeOf_spec]
    omega
  · simp only [pending, children_add, _shape, List.cons.sizeOf_spec]
    omega
  · simp only [pending, children_close]
    omega

end OpenNode

/-- The declarations of a file, given its syntax tree. -/
def SyntaxNode.members (root : SyntaxNode) : List Member :=
  OpenNode.gather [{ scope := .inline, children := root.children }]

end Registrar
