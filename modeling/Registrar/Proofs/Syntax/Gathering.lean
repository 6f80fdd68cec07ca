import Registrar.Syntax.Lowering

/-!
# Gathering by recursion

What the stack of open nodes comes to is said by recursion over the tree. `gatherAll` gives the
members of consecutive nodes; unwinding a stack finishes each open node with what its remaining
children give. One step of gathering does not change what the stack unwinds to.
-/

set_option autoImplicit false

namespace Registrar

/-- Members of consecutive nodes: those in front of the first namespace for the rest, and such
namespaces from there on. -/
structure Gathered where
  front : List Member
  spaces : List Member

namespace Gathered

def members (gathered : Gathered) : List Member := gathered.front ++ gathered.spaces

def behind (found : List Member) (gathered : Gathered) : Gathered :=
  { gathered with front := found ++ gathered.front }

def enclose (scope : SyntaxNode.Scope) (found : List Member) (following : Gathered) : Gathered :=
  match scope with
  | .inline => following.behind found
  | .block name => following.behind [.space name found]
  | .fileScoped name =>
      { front := [], spaces := .space name (found ++ following.front) :: following.spaces }

end Gathered

mutual

def SyntaxNode.gather (following : Gathered) : SyntaxNode → Gathered
  | .mk kind name row children =>
      match (SyntaxNode.mk kind name row children).scope? with
      | some scope => following.enclose scope (gatherAll children).members
      | none =>
          following.behind ((SyntaxNode.mk kind name row children).decl?.map Member.type).toList

def gatherAll : List SyntaxNode → Gathered
  | [] => ⟨[], []⟩
  | node :: rest => node.gather (gatherAll rest)

end

namespace SyntaxNode

theorem gather_of_scope {node : SyntaxNode} {scope : Scope} (following : Gathered)
    (opened : node.scope? = some scope) :
    node.gather following = following.enclose scope (gatherAll node.children).members := by
  cases node
  rw [gather]
  simp only [opened, children]

theorem gather_of_no_scope {node : SyntaxNode} (following : Gathered)
    (closed : node.scope? = none) :
    node.gather following = following.behind (node.decl?.map Member.type).toList := by
  cases node
  rw [gather]
  simp only [closed]

end SyntaxNode

namespace OpenNode

@[simp]
theorem scope_add (node : OpenNode) (found : List Member) :
    (node.add found).scope = node.scope := by
  unfold add
  split <;> rfl

@[simp]
theorem scope_close (node : OpenNode) (scope : SyntaxNode.Scope) (found : List Member) :
    (node.close scope found).scope = node.scope := by
  cases scope <;> simp [close]

theorem add_add (node : OpenNode) (first second : List Member) :
    (node.add first).add second = node.add (first ++ second) := by
  rcases node with ⟨scope, children, members, _ | ⟨name, inner⟩⟩ <;> simp [add]

theorem add_nil (node : OpenNode) : node.add [] = node := by
  rcases node with ⟨scope, children, members, _ | ⟨name, inner⟩⟩ <;> simp [add]

def finishWith (node : OpenNode) (remaining : Gathered) : List Member :=
  (node.add remaining.front).finish ++ remaining.spaces

theorem finishWith_children (node : OpenNode) (rest : List SyntaxNode) (remaining : Gathered) :
    ({ node with children := rest } : OpenNode).finishWith remaining =
      node.finishWith remaining := by
  simp only [finishWith, add, finish]
  split <;> rfl

theorem finishWith_add (node : OpenNode) (found : List Member) (remaining : Gathered) :
    (node.add found).finishWith remaining = node.finishWith (remaining.behind found) := by
  simp only [finishWith, add_add, Gathered.behind]

theorem finishWith_close (node : OpenNode) (scope : SyntaxNode.Scope) (found : List Member)
    (remaining : Gathered) :
    (node.close scope found).finishWith remaining =
      node.finishWith (remaining.enclose scope found) := by
  cases scope with
  | inline => exact finishWith_add node found remaining
  | block name => exact finishWith_add node [.space name found] remaining
  | fileScoped name =>
      simp only [finishWith, close, Gathered.enclose, add_nil]
      simp [add, finish]

def unwindFrom (scope : SyntaxNode.Scope) (found : List Member) : List OpenNode → List Member
  | [] => found
  | node :: outer =>
      unwindFrom node.scope ((node.close scope found).finishWith (gatherAll node.children)) outer

def unwind : List OpenNode → List Member
  | [] => []
  | node :: outer => unwindFrom node.scope (node.finishWith (gatherAll node.children)) outer

/-- Entering a child does not change what the open nodes unwind to. -/
theorem unwind_enter {node : OpenNode} {outer : List OpenNode} {child : SyntaxNode}
    {rest : List SyntaxNode} {scope : SyntaxNode.Scope} (shape : node.children = child :: rest)
    (opened : child.scope? = some scope) :
    unwind ({ scope := scope, children := child.children } :: { node with children := rest } ::
      outer) = unwind (node :: outer) := by
  have inside : ({ scope := scope, children := child.children } : OpenNode).finishWith
      (gatherAll child.children) = (gatherAll child.children).members := by
    simp [finishWith, add, finish, Gathered.members]
  rw [unwind, unwind, unwindFrom, inside, finishWith_close, finishWith_children, shape, gatherAll,
    SyntaxNode.gather_of_scope _ opened]

theorem unwind_pass {node : OpenNode} {outer : List OpenNode} {child : SyntaxNode}
    {rest : List SyntaxNode} (shape : node.children = child :: rest)
    (closed : child.scope? = none) :
    unwind (({ node with children := rest } : OpenNode).add (child.decl?.map Member.type).toList ::
      outer) = unwind (node :: outer) := by
  rw [unwind, unwind, scope_add, children_add, finishWith_add, finishWith_children, shape,
    gatherAll, SyntaxNode.gather_of_no_scope _ closed]

theorem finishWith_nil {node : OpenNode} (shape : node.children = []) :
    node.finishWith (gatherAll node.children) = node.finish := by
  rw [shape, gatherAll, finishWith, add_nil, List.append_nil]

/-- Gathering ends with what the open nodes unwind to. -/
theorem gather_eq_unwind (nodes : List OpenNode) : gather nodes = unwind nodes := by
  fun_induction gather nodes with
  | case1 => rfl
  | case2 node outer child rest shape _ scope opened inductionHypothesis =>
      exact inductionHypothesis.trans (unwind_enter shape opened)
  | case3 node outer child rest shape _ closed inductionHypothesis =>
      exact inductionHypothesis.trans (unwind_pass shape closed)
  | case4 node shape parent others inductionHypothesis =>
      rw [inductionHypothesis, unwind, unwind, unwindFrom, scope_close, children_close,
        finishWith_nil shape]
  | case5 node shape =>
      rw [unwind, unwindFrom, finishWith_nil shape]

end OpenNode

theorem SyntaxNode.members_eq (root : SyntaxNode) :
    root.members = (gatherAll root.children).members := by
  rw [SyntaxNode.members, OpenNode.gather_eq_unwind]
  simp [OpenNode.unwind, OpenNode.unwindFrom, OpenNode.finishWith, OpenNode.add, OpenNode.finish,
    Gathered.members]

end Registrar
