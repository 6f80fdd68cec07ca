import Mathlib.Data.List.Forall2
import Registrar.Proofs.Source.Parsing
import Registrar.Proofs.Syntax.Gathering
import Registrar.Syntax.Parser

/-!
# Trees that present a forest

What a grammar makes of printed declarations: a node for each declaration, in its row and with its
name, with attribute lists in a type and a body in a namespace. Whatever else a parser puts in the
tree, the forest is gathered from it.
-/

set_option autoImplicit false

namespace Registrar

open Syntax

namespace DottedName

theorem isBlank_eq_false (name : DottedName) : ∀ c ∈ name.text.toList, Text.isBlank c = false := by
  intro c membership
  rw [name.toList_text, List.mem_append, dotChars, List.mem_flatMap] at membership
  rcases membership with first | ⟨part, -, among⟩
  · exact name.first.isName.isBlank_eq_false c first
  · rcases List.mem_cons.1 among with rfl | later
    · decide
    · exact part.isName.isBlank_eq_false c later

theorem compact_text (name : DottedName) : Text.compact name.text = name.text := by
  rw [← String.toList_inj, Text.toList_compact, List.filter_eq_self]
  intro c membership
  rw [name.isBlank_eq_false c membership]
  rfl

end DottedName

/-- A list of one attribute, whose name is the given one. -/
def DottedName.IsListedBy (attr : DottedName) (list : SyntaxNode) : Prop :=
  ∃ item, list.children = [item] ∧ item.kind = "attribute" ∧ item.name = some attr.text

/-- The node of a type. Among its children are the attribute lists; a body or the name may be
others. -/
structure PlainType.IsPresentedBy (type : PlainType) (row : Nat) (node : SyntaxNode) : Prop where
  kind : node.kind = type.kind.symbol
  name : node.name = some type.name.text
  row : node.row = row
  lists : List.Forall₂ DottedName.IsListedBy type.attributes
    (node.children.filter fun child => child.kind == "attribute_list")

/-- A node that writes a name. -/
def SyntaxNode.IsNaming (node : SyntaxNode) : Prop :=
  node.kind = "identifier" ∨ node.kind = "qualified_name"

mutual

/-- The node of a member whose first line is in the given row. -/
def PlainMember.IsPresentedBy (row : Nat) (node : SyntaxNode) : PlainMember → Prop
  | .type type => type.IsPresentedBy row node
  | .space name members =>
      node.kind = "namespace_declaration" ∧ node.name = some name.text ∧
        ∃ names body, node.children = names ++ [body] ∧ (∀ child ∈ names, child.IsNaming) ∧
          body.kind = "declaration_list" ∧ ArePresentedBy (row + 1) body.children members

def ArePresentedBy (row : Nat) (nodes : List SyntaxNode) : List PlainMember → Prop
  | [] => nodes = []
  | member :: rest =>
      ∃ node others, nodes = node :: others ∧ member.IsPresentedBy row node ∧
        ArePresentedBy (row + member.printed.length) others rest

end

/-- What a parser finds in the text of a forest: no error, and a node for each declaration. -/
structure ParsedText.Presents (parsed : ParsedText) (forest : List PlainMember) : Prop where
  nodes : ArePresentedBy 0 parsed.tree.children forest
  hasError : parsed.hasError = false

namespace PlainType.IsPresentedBy

variable {type : PlainType} {row : Nat} {node : SyntaxNode}

theorem attributes_eq (presented : type.IsPresentedBy row node) :
    SyntaxNode.attributes node.children = type.attributes.map fun attr => ⟨attr.text⟩ := by
  have lists := presented.lists
  rw [SyntaxNode.attributes]
  generalize type.attributes = attrs, node.children.filter _ = nodes at lists ⊢
  induction lists with
  | nil => rfl
  | @cons attr list attrs lists listed _ inductionHypothesis =>
      obtain ⟨item, only, kind, name⟩ := listed
      rw [List.flatMap_cons, List.map_cons, inductionHypothesis]
      simp [only, kind, name, attr.compact_text]

theorem decl?_eq (presented : type.IsPresentedBy row node) :
    node.decl? = some (type.decl (row + 1)) := by
  have attributes := presented.attributes_eq
  obtain ⟨kind, name, place, -⟩ := presented
  have named : node.compactName = type.name.text := by
    rw [SyntaxNode.compactName, name]
    exact type.name.isName.compact_eq
  have nonempty : type.name.text.isEmpty = false := by
    rw [← Bool.not_eq_true, String.isEmpty_iff]
    intro empty
    have isOne := type.name.isName.1
    rw [empty] at isOne
    cases isOne
  rw [SyntaxNode.decl?, kind, TypeKind.ofGrammarSymbol?_symbol, Option.bind_some,
    SyntaxNode.typeDecl?, named, nonempty, attributes, place]
  rfl

theorem scope?_eq (presented : type.IsPresentedBy row node) : node.scope? = none := by
  obtain ⟨kind, name, row, children⟩ := node
  obtain rfl : kind = type.kind.symbol := presented.kind
  exact SyntaxNode.scope?_symbol ..

end PlainType.IsPresentedBy

/-- A name in front of a body declares nothing. -/
theorem SyntaxNode.IsNaming.gather_eq {node : SyntaxNode} (naming : node.IsNaming)
    (following : Gathered) : node.gather following = following := by
  obtain ⟨kind, name, row, children⟩ := node
  have plain : SyntaxNode.isConditional "identifier" = false ∧
      SyntaxNode.isConditional "qualified_name" = false := by decide
  rcases naming with rfl | rfl
  · exact SyntaxNode.gather_of_no_scope following (if_neg (by simp [SyntaxNode.kind, plain]))
  · exact SyntaxNode.gather_of_no_scope following (if_neg (by simp [SyntaxNode.kind, plain]))

theorem gatherAll_of_naming {names : List SyntaxNode} (naming : ∀ child ∈ names, child.IsNaming)
    (nodes : List SyntaxNode) : gatherAll (names ++ nodes) = gatherAll nodes := by
  induction names with
  | nil => rfl
  | cons child rest inductionHypothesis =>
      rw [List.forall_mem_cons] at naming
      rw [List.cons_append, gatherAll, naming.1.gather_eq, inductionHypothesis naming.2]

mutual

theorem PlainMember.IsPresentedBy.gather_eq : ∀ {member : PlainMember} {row : Nat}
    {node : SyntaxNode} (following : Gathered), member.IsPresentedBy row node →
      node.gather following = following.behind [member.declared (row + 1)]
  | .type type, row, node, following, presented => by
      rw [PlainMember.IsPresentedBy] at presented
      rw [SyntaxNode.gather_of_no_scope following presented.scope?_eq, presented.decl?_eq,
        PlainMember.declared]
      rfl
  | .space name members, row, node, following, presented => by
      rw [PlainMember.IsPresentedBy] at presented
      obtain ⟨kind, named, names, body, children, naming, bodyKind, inside⟩ := presented
      have entered : node.scope? = some (.block name.text) := by
        rw [SyntaxNode.scope?, kind, SyntaxNode.compactName, named, Option.map_some,
          name.compact_text, Option.getD_some]
        rfl
      have opened : body.scope? = some .inline := by
        rw [SyntaxNode.scope?, bodyKind]
        rfl
      have gathered : gatherAll node.children = ⟨declaredMembers (row + 2) members, []⟩ := by
        rw [children, gatherAll_of_naming naming, gatherAll, SyntaxNode.gather_of_scope _ opened,
          gatherAll_of_arePresentedBy inside]
        simp [Gathered.enclose, Gathered.behind, Gathered.members, gatherAll]
      rw [SyntaxNode.gather_of_scope following entered, gathered, PlainMember.declared]
      simp [Gathered.enclose, Gathered.members]

theorem gatherAll_of_arePresentedBy : ∀ {members : List PlainMember} {row : Nat}
    {nodes : List SyntaxNode}, ArePresentedBy row nodes members →
      gatherAll nodes = ⟨declaredMembers (row + 1) members, []⟩
  | [], row, nodes, presented => by
      rw [ArePresentedBy] at presented
      rw [presented, declaredMembers, gatherAll]
  | member :: rest, row, nodes, presented => by
      rw [ArePresentedBy] at presented
      obtain ⟨node, others, rfl, first, later⟩ := presented
      have next : row + member.printed.length + 1 = row + 1 + member.printed.length := by omega
      rw [gatherAll, gatherAll_of_arePresentedBy later, first.gather_eq, declaredMembers, next]
      rfl

end

/-- The forest is gathered from each tree that presents it. -/
theorem ParsedText.Presents.members_eq {parsed : ParsedText} {forest : List PlainMember}
    (presented : parsed.Presents forest) : parsed.tree.members = declaredMembers 1 forest := by
  rw [SyntaxNode.members_eq, gatherAll_of_arePresentedBy presented.nodes]
  simp [Gathered.members]

end Registrar
