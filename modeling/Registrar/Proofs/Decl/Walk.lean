import Registrar.Decl.Walk

/-!
# Walking over a forest

A walk answers with one match after another and then with none for good. Its matches are those of
the recursion over the forest that hands down the names of the namespaces. The walk itself keeps a
single path; what it is cut back to on the way out gives each open namespace its own path again.
-/

set_option autoImplicit false

namespace Registrar

mutual

/-- The types of a member, of any depth, in document order, each with the names of the namespaces
around it, the outermost first. -/
def Member.placed (around : List String) : Member → List (List String × TypeDecl)
  | .type decl => [(around, decl)]
  | .space name members => placedMembers (around ++ [name]) members

def placedMembers (around : List String) : List Member → List (List String × TypeDecl)
  | [] => []
  | member :: rest => member.placed around ++ placedMembers around rest

end

def Namespace.placed (space : Namespace) : List (List String × TypeDecl) :=
  placedMembers [space.name] space.members

/-- The names with dots between them, those that are empty left out. -/
def dottedPath (names : List String) : String :=
  ".".intercalate (names.filter fun name => !name.isEmpty)

/-- What the marker makes of a type at its place: a match with the first attribute that it accepts,
or nothing. -/
def Marker.matchPlaced? (marker : Marker) : List String × TypeDecl → Option Match
  | (around, decl) =>
      (decl.attributes.find? marker.accepts).map fun attr => ⟨decl, attr, dottedPath around⟩

def Namespace.matches (space : Namespace) (marker : Marker) : List Match :=
  space.placed.filterMap marker.matchPlaced?

theorem intercalate_append_singleton {separator last : String} {parts : List String}
    (present : parts ≠ []) : separator.intercalate (parts ++ [last]) =
      separator.intercalate parts ++ separator ++ last := by
  induction parts with
  | nil => exact absurd rfl present
  | cons part rest inductionHypothesis =>
      cases rest with
      | nil => simp [String.intercalate_cons_cons]
      | cons next rest =>
          have tail := inductionHypothesis (List.cons_ne_nil next rest)
          simp only [List.cons_append, String.intercalate_cons_cons] at tail ⊢
          rw [tail]
          simp only [String.append_assoc]

theorem isEmpty_dottedPath (names : List String) :
    (dottedPath names).isEmpty = (names.filter fun name => !name.isEmpty).isEmpty := by
  rw [dottedPath]
  generalize kept : names.filter (fun name => !name.isEmpty) = parts
  rcases List.eq_nil_or_concat parts with rfl | ⟨front, last, rfl⟩
  · rfl
  · have named : last.isEmpty = false := by
      have membership : last ∈ names.filter fun name => !name.isEmpty := by simp [kept]
      simpa using (List.mem_filter.1 membership).2
    have whole : (".".intercalate (front ++ [last])).isEmpty = false := by
      by_cases alone : front = []
      · simpa [alone] using named
      · rw [intercalate_append_singleton alone]
        simp only [← Bool.not_eq_true, String.isEmpty_iff, String.append_eq_empty_iff] at named ⊢
        exact fun empty => named empty.2
    rw [List.concat_eq_append, whole]
    simp

theorem nestedPath_dottedPath (around : List String) (name : String) :
    nestedPath (dottedPath around) name = dottedPath (around ++ [name]) := by
  unfold nestedPath
  by_cases unnamed : name.isEmpty = true
  · simp [dottedPath, unnamed]
  · have extended : (around ++ [name]).filter (fun name => !name.isEmpty) =
        around.filter (fun name => !name.isEmpty) ++ [name] := by
      simp [unnamed]
    rw [if_neg unnamed, isEmpty_dottedPath]
    split
    · rename_i none
      rw [dottedPath, extended, List.isEmpty_iff.1 none]
      simp
    · rename_i some
      rw [dottedPath, dottedPath, extended, intercalate_append_singleton (by simpa using some)]

theorem toList_match? (marker : Marker) (around : List String) (decl : TypeDecl) :
    (marker.match? (dottedPath around) decl).toList =
      [(around, decl)].filterMap marker.matchPlaced? := by
  rw [Marker.match?, Marker.firstAccepted?]
  cases found : decl.attributes.find? marker.accepts <;> simp [Marker.matchPlaced?, found]

mutual

theorem Member.marked_dottedPath (marker : Marker) (around : List String) : ∀ member : Member,
    member.marked marker (dottedPath around) =
      (member.placed around).filterMap marker.matchPlaced?
  | .type decl => by
      rw [Member.marked, Member.placed, toList_match?]
  | .space name members => by
      rw [Member.marked, Member.placed, nestedPath_dottedPath]
      exact markedMembers_dottedPath marker (around ++ [name]) members

theorem markedMembers_dottedPath (marker : Marker) (around : List String) :
    ∀ members : List Member, markedMembers marker (dottedPath around) members =
      (placedMembers around members).filterMap marker.matchPlaced?
  | [] => rfl
  | member :: rest => by
      rw [markedMembers, placedMembers, List.filterMap_append,
        member.marked_dottedPath marker around, markedMembers_dottedPath marker around rest]

end

theorem dottedPath_singleton (name : String) : dottedPath [name] = name := by
  by_cases unnamed : name.isEmpty = true
  · simp [dottedPath, String.isEmpty_iff.1 unnamed]
  · simp [dottedPath, unnamed]

theorem Namespace.marked_eq_matches (space : Namespace) (marker : Marker) :
    space.marked marker = space.matches marker := by
  have whole := markedMembers_dottedPath marker [space.name] space.members
  rwa [dottedPath_singleton] at whole

namespace Walk

def located (path : String) : List OpenSpace → List (String × List Member)
  | [] => []
  | space :: outer => (path, space.members) :: located (Text.truncate path space.restore) outer

/-- The matches still to come, by recursion over what is still open. -/
def remaining (walk : Walk) : List Match :=
  (located walk.path walk.spaces).flatMap fun (path, members) =>
    markedMembers walk.marker path members

theorem next_remaining (walk : Walk) :
    walk.next.1 = walk.remaining.head? ∧ walk.next.2.remaining = walk.remaining.tail := by
  fun_induction next walk with
  | case1 marker path => exact ⟨rfl, rfl⟩
  | case2 marker path restore outer inductionHypothesis =>
      simpa [remaining, located, markedMembers] using inductionHypothesis
  | case3 marker path restore decl rest outer found matched =>
      simp [remaining, located, markedMembers, Member.marked, matched]
  | case4 marker path restore decl rest outer unmatched inductionHypothesis =>
      simpa [remaining, located, markedMembers, Member.marked, unmatched] using inductionHypothesis
  | case5 marker path restore name members rest outer inductionHypothesis =>
      -- leaving the new namespace cuts the path back to where it was entered
      simpa [remaining, located, markedMembers, Member.marked] using inductionHypothesis

/-- What a walk answers when it has been asked the given number of times before. -/
def answer (walk : Walk) : Nat → Option Match
  | 0 => walk.next.1
  | asked + 1 => walk.next.2.answer asked

theorem answer_eq (walk : Walk) (asked : Nat) : walk.answer asked = walk.remaining[asked]? := by
  induction asked generalizing walk with
  | zero => rw [answer, walk.next_remaining.1, List.head?_eq_getElem?]
  | succ asked inductionHypothesis =>
      rw [answer, inductionHypothesis, walk.next_remaining.2, List.getElem?_tail]

theorem toList_eq_remaining (walk : Walk) : walk.toList = walk.remaining := by
  fun_induction toList walk with
  | case1 walk after stopped =>
      have first := walk.next_remaining.1
      rw [stopped] at first
      exact (List.head?_eq_none_iff.1 first.symm).symm
  | case2 walk found after advanced inductionHypothesis =>
      have step := walk.next_remaining
      rw [advanced] at step
      obtain ⟨rest, shape⟩ := List.head?_eq_some_iff.1 step.1.symm
      rw [inductionHypothesis, step.2, shape, List.tail_cons]

theorem remaining_start (space : Namespace) (marker : Marker) :
    (start space marker).remaining = space.marked marker := by
  simp [remaining, located, start, Namespace.marked]

theorem toList_start (space : Namespace) (marker : Marker) :
    (start space marker).toList = space.marked marker := by
  rw [toList_eq_remaining, remaining_start]

end Walk

/-- A walk over a forest gives, in document order, one match for each type that carries an accepted
attribute, with the first such attribute and the dotted names of the namespaces around the type.
However often it is asked, it answers with the matches one by one and then with none. -/
theorem walk_answers_matches (space : Namespace) (marker : Marker) :
    (Walk.start space marker).toList = space.matches marker ∧
      ∀ asked, (Walk.start space marker).answer asked = (space.matches marker)[asked]? := by
  constructor
  · rw [Walk.toList_start, space.marked_eq_matches]
  · intro asked
    rw [Walk.answer_eq, Walk.remaining_start, space.marked_eq_matches]

/-- Namespaces without a name add nothing to a path, and a path does not grow by those that have
been left. -/
example : ((Namespace.mk "" [.space "A" [.space "" [.space "B" []], .type ⟨"T", .classType,
    [⟨"Obsolete"⟩, ⟨"JsonAot"⟩, ⟨"MyJsonAot"⟩], 1⟩]]).matches default).map
      (fun found => (found.space, found.attr.name)) = [("A", "JsonAot")] := by
  rfl

end Registrar
