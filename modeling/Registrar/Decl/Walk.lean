import Registrar.Decl.Marker
import Registrar.Text.Utf8

/-!
Marked types of a declaration forest. `Namespace.marked` gives them by recursion over the forest.
A `Walk` gives them one after another and keeps the namespaces still open, so that the depth of
the forest costs no call depth. It keeps one path, that of the innermost open namespace, which
grows when a namespace is entered and is cut back when the namespace is left.
-/

set_option autoImplicit false

namespace Registrar

/-- A type with the attribute that opts it in and the dotted path of its namespaces. -/
structure Match where
  decl : TypeDecl
  attr : Attribute
  space : String
deriving DecidableEq, Repr

def nestedPath (outer name : String) : String :=
  if name.isEmpty then outer
  else if outer.isEmpty then name
  else outer ++ "." ++ name

@[simp]
theorem truncate_nestedPath (outer name : String) :
    Text.truncate (nestedPath outer name) (Text.byteLength outer.toList) = outer := by
  unfold nestedPath
  split
  · exact Text.truncate_byteLength outer
  · split
    · rename_i empty
      rw [String.isEmpty_iff.1 empty]
      exact Text.truncate_append "" name
    · rw [String.append_assoc]
      exact Text.truncate_append outer _

def Marker.match? (marker : Marker) (path : String) (decl : TypeDecl) : Option Match :=
  (marker.firstAccepted? decl).map fun attr => ⟨decl, attr, path⟩

mutual

/-- The marked types of a member in document order. -/
def Member.marked (marker : Marker) (path : String) : Member → List Match
  | .type decl => (marker.match? path decl).toList
  | .space name members => markedMembers marker (nestedPath path name) members

def markedMembers (marker : Marker) (path : String) : List Member → List Match
  | [] => []
  | member :: rest => member.marked marker path ++ markedMembers marker path rest

end

def Namespace.marked (space : Namespace) (marker : Marker) : List Match :=
  markedMembers marker space.name space.members

/-- A namespace that is still open. -/
structure OpenSpace where
  /-- The length in bytes that the path had in front of the name of the namespace. -/
  restore : Nat
  /-- The members still to come. -/
  members : List Member

/-- A traversal under way: the path of the innermost open namespace, and the open namespaces, the
innermost first. -/
structure Walk where
  marker : Marker
  path : String
  spaces : List OpenSpace

namespace Walk

/-- A bound on the steps that open namespaces still need. -/
noncomputable def pending : List OpenSpace → Nat
  | [] => 0
  | space :: outer => sizeOf space.members + pending outer

def start (space : Namespace) (marker : Marker) : Walk :=
  ⟨marker, space.name, [⟨0, space.members⟩]⟩

/-- The next match, if there is one, and what is still open after it. -/
def next : Walk → Option Match × Walk
  | ⟨marker, path, []⟩ => (none, ⟨marker, path, []⟩)
  | ⟨marker, path, ⟨restore, []⟩ :: outer⟩ => next ⟨marker, Text.truncate path restore, outer⟩
  | ⟨marker, path, ⟨restore, .type decl :: rest⟩ :: outer⟩ =>
      match marker.match? path decl with
      | some found => (some found, ⟨marker, path, ⟨restore, rest⟩ :: outer⟩)
      | none => next ⟨marker, path, ⟨restore, rest⟩ :: outer⟩
  | ⟨marker, path, ⟨restore, .space name members :: rest⟩ :: outer⟩ =>
      next ⟨marker, nestedPath path name,
        ⟨Text.byteLength path.toList, members⟩ :: ⟨restore, rest⟩ :: outer⟩
termination_by walk => pending walk.spaces
decreasing_by
  · simp only [pending, List.nil.sizeOf_spec]
    omega
  · simp only [pending, List.cons.sizeOf_spec]
    omega
  · simp only [pending, List.cons.sizeOf_spec, Member.space.sizeOf_spec]
    omega

theorem pending_lt_of_next (walk : Walk) (found : walk.next.1.isSome = true) :
    pending walk.next.2.spaces < pending walk.spaces := by
  fun_induction next walk with
  | case1 => cases found
  | case2 marker path restore outer ih =>
      have := ih found
      simp only [pending, List.nil.sizeOf_spec] at this ⊢
      omega
  | case3 marker path restore decl rest outer =>
      simp only [pending, List.cons.sizeOf_spec]
      omega
  | case4 marker path restore decl rest outer _ ih =>
      have := ih found
      simp only [pending, List.cons.sizeOf_spec] at this ⊢
      omega
  | case5 marker path restore name members rest outer ih =>
      have := ih found
      simp only [pending, List.cons.sizeOf_spec, Member.space.sizeOf_spec] at this ⊢
      omega

def toList (walk : Walk) : List Match :=
  match _step : walk.next with
  | (none, _) => []
  | (some found, after) => found :: toList after
termination_by pending walk.spaces
decreasing_by
  have less := pending_lt_of_next walk (by rw [_step]; rfl)
  rwa [_step] at less

end Walk

end Registrar
