import Registrar.Proofs.Decl.Types
import Registrar.Proofs.Syntax.Reached
import Registrar.Source.Unit

/-!
# The names in a file

The types of a file are those that the nodes of its tree declare, whatever tree the parser finds.
Their names hold no blanks, so that no line of a generated text is broken by a name.
-/

set_option autoImplicit false

namespace Registrar

mutual

theorem exists_row_of_mem_decls {decl : TypeDecl} : ∀ (member : Member) (chain : List String),
    decl ∈ member.decls → ∃ around, (around, Declaration.type decl) ∈ member.rows chain
  | .type other, chain, membership => by
      rw [List.mem_singleton.1 membership]
      exact ⟨chain, List.mem_singleton_self _⟩
  | .space name members, chain, membership => by
      obtain ⟨around, row⟩ := exists_row_of_mem_declsOf members (chain ++ [name]) membership
      exact ⟨around, List.mem_cons_of_mem _ row⟩

theorem exists_row_of_mem_declsOf {decl : TypeDecl} :
    ∀ (members : List Member) (chain : List String),
    decl ∈ declsOf members → ∃ around, (around, Declaration.type decl) ∈ rowsOf chain members
  | [], _, membership => by cases membership
  | member :: rest, chain, membership => by
      rcases List.mem_append.1 membership with here | later
      · obtain ⟨around, row⟩ := exists_row_of_mem_decls member chain here
        exact ⟨around, List.mem_append_left _ row⟩
      · obtain ⟨around, row⟩ := exists_row_of_mem_declsOf rest chain later
        exact ⟨around, List.mem_append_right _ row⟩

end

namespace SyntaxNode

/-- A type of the forest stands in a node that is reached. -/
theorem exists_of_mem_members {root : SyntaxNode} {decl : TypeDecl}
    (membership : decl ∈ declsOf root.members) :
    ∃ path node, root.reaches path = true ∧ root.at? path = some node ∧
      node.declaredType? = some decl := by
  obtain ⟨around, row⟩ := exists_row_of_mem_declsOf root.members [] membership
  rw [rowsOf_members] at row
  obtain ⟨path, -, declared⟩ := List.mem_filterMap.1 row
  rw [rowAt] at declared
  split at declared
  · rename_i reached
    obtain ⟨declaration, found, same⟩ := Option.map_eq_some_iff.1 declared
    obtain ⟨node, stands, byItself⟩ := Option.bind_eq_some_iff.1 found
    obtain ⟨-, rfl⟩ := Prod.mk.inj same
    refine ⟨path, node, reached, stands, ?_⟩
    rw [declaration?] at byItself
    split at byItself
    · cases byItself
    · obtain ⟨other, here, equality⟩ := Option.map_eq_some_iff.1 byItself
      cases equality
      exact here
  · cases declared

theorem exists_of_declaredType? {node : SyntaxNode} {decl : TypeDecl}
    (declared : node.declaredType? = some decl) :
    decl.name = node.spacelessName ∧ decl.attributes = node.attributeNames.map Attribute.mk := by
  obtain ⟨kind, -, named⟩ := Option.bind_eq_some_iff.1 declared
  rcases ite_eq_iff.1 named with ⟨-, missing⟩ | ⟨-, same⟩
  · cases missing
  · cases same
    exact ⟨rfl, rfl⟩

theorem isCompact_spacelessName (node : SyntaxNode) : Text.IsCompact node.spacelessName := by
  rw [spacelessName]
  cases node.name with
  | none =>
      intro c membership
      cases membership
  | some text =>
      intro c membership
      rw [Option.elim_some, visible, String.toList_ofList, List.mem_filter] at membership
      simpa using membership.2

/-- No blank is left in the name of a type, whatever the tree. -/
theorem isCompact_of_mem_members {root : SyntaxNode} {decl : TypeDecl}
    (membership : decl ∈ declsOf root.members) : Text.IsCompact decl.name := by
  obtain ⟨path, node, -, -, declared⟩ := exists_of_mem_members membership
  rw [(exists_of_declaredType? declared).1]
  exact node.isCompact_spacelessName

end SyntaxNode

/-- Whether each type that is reached in the tree has only attributes of the given names. -/
def ParsedText.HasAttributesAmong (parsed : ParsedText) (written : List String) : Prop :=
  ∀ path type, parsed.tree.reaches path = true → parsed.tree.at? path = some type →
    type.declaredType?.isSome → ∀ name ∈ type.attributeNames, name ∈ written

theorem ParsedText.HasAttributesAmong.name_mem {parsed : ParsedText} {written : List String}
    (among : parsed.HasAttributesAmong written) {decl : TypeDecl} {attr : Attribute}
    (membership : decl ∈ declsOf parsed.tree.members) (carried : attr ∈ decl.attributes) :
    attr.name ∈ written := by
  obtain ⟨path, type, reached, found, declared⟩ := SyntaxNode.exists_of_mem_members membership
  rw [(SyntaxNode.exists_of_declaredType? declared).2] at carried
  obtain ⟨name, inside, rfl⟩ := List.mem_map.1 carried
  exact among path type reached found (declared ▸ rfl) name inside

theorem SourceFile.root_read (parser : SourceParser) (file : SourceFile) :
    (file.read parser).root =
      .ofMembers (parser (Text.withoutMark (Text.decode file.bytes).text)).tree.members := rfl

theorem SourceFile.isCompact_of_mem_decls {parser : SourceParser} {file : SourceFile}
    {decl : TypeDecl} (membership : decl ∈ (file.read parser).root.decls) :
    Text.IsCompact decl.name :=
  SyntaxNode.isCompact_of_mem_members membership

theorem SourceUnit.map_name_findings (unit : SourceUnit) (marker : Marker) :
    (unit.findings marker).map Finding.name =
      (unit.root.decls.filter marker.marks).map TypeDecl.name := by
  rw [findings, walk, Walk.toList_start, ← Namespace.map_decl_marked, List.map_map, List.map_map]
  rfl

end Registrar
