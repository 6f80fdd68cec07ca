import Registrar.Proofs.Decl.Walk

/-!
# The types of a forest

The marked types of a forest are, in the same order, its types of any depth that carry an accepted
attribute.
-/

set_option autoImplicit false

namespace Registrar

mutual

/-- The types of a member, of any depth, in document order. -/
def Member.decls : Member → List TypeDecl
  | .type decl => [decl]
  | .space _ members => declsOf members

def declsOf : List Member → List TypeDecl
  | [] => []
  | member :: rest => member.decls ++ declsOf rest

end

def Namespace.decls (space : Namespace) : List TypeDecl := declsOf space.members

def Marker.marks (marker : Marker) (decl : TypeDecl) : Bool := decl.attributes.any marker.accepts

theorem isSome_match? (marker : Marker) (path : String) (decl : TypeDecl) :
    (marker.match? path decl).isSome = marker.marks decl := by
  rw [Marker.match?, Option.isSome_map, Marker.firstAccepted?, List.isSome_find?, Marker.marks]

theorem decl_of_match? {marker : Marker} {path : String} {decl : TypeDecl} {found : Match}
    (matched : marker.match? path decl = some found) : found.decl = decl := by
  obtain ⟨attr, -, rfl⟩ := Option.map_eq_some_iff.1 matched
  rfl

mutual

theorem map_decl_marked (marker : Marker) (path : String) : ∀ member : Member,
    (member.marked marker path).map Match.decl = member.decls.filter marker.marks
  | .type decl => by
      have marked := isSome_match? marker path decl
      rw [Member.marked, Member.decls]
      rcases matched : marker.match? path decl with _ | found
      · rw [matched, Option.isSome_none] at marked
        simp [← marked]
      · rw [matched, Option.isSome_some] at marked
        simp [← marked, decl_of_match? matched]
  | .space name members => by
      rw [Member.marked, Member.decls]
      exact map_decl_markedMembers marker (nestedPath path name) members

theorem map_decl_markedMembers (marker : Marker) (path : String) : ∀ members : List Member,
    (markedMembers marker path members).map Match.decl = (declsOf members).filter marker.marks
  | [] => rfl
  | member :: rest => by
      rw [markedMembers, declsOf, List.map_append, List.filter_append,
        map_decl_marked marker path member, map_decl_markedMembers marker path rest]

end

/-- The marked types of a namespace are its types that carry an accepted attribute. -/
theorem Namespace.map_decl_marked (space : Namespace) (marker : Marker) :
    (space.marked marker).map Match.decl = space.decls.filter marker.marks :=
  map_decl_markedMembers marker space.name space.members

end Registrar
