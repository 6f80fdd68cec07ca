import Registrar.FileTree.Basic
import Std.Data.TreeSet

/-!
Visiting what is below a location. The names in a directory are taken in their order, and what is
below a directory follows it at once, if the directory is entered.
-/

set_option autoImplicit false

namespace Registrar

/-- What follows a location in another one, which has to be below it. -/
def below? : Location → Location → Option Location
  | [], [] => none
  | [], name :: rest => some (name :: rest)
  | _ :: _, [] => none
  | name :: place, other :: location => if name = other then below? place location else none

theorem below?_eq_some_iff {place location names : Location} :
    below? place location = some names ↔ names ≠ [] ∧ location = place ++ names := by
  fun_induction below? place location with
  | case1 => simp +contextual [eq_comm]
  | case2 name rest =>
      constructor
      · intro same
        cases same
        simp
      · rintro ⟨-, shape⟩
        rw [shape, List.nil_append]
  | case3 => simp
  | case4 place name location inductionHypothesis => simpa using inductionHypothesis
  | case5 name place other location different =>
      constructor
      · nofun
      · rintro ⟨-, shape⟩
        exact absurd (List.cons.inj shape).1.symm different

namespace FileTree

def depth (tree : FileTree) : Nat :=
  tree.toList.foldr (fun (location, _) longest => max location.length longest) 0

theorem length_le_depth {tree : FileTree} {location : Location} {entry : Entry}
    (membership : (location, entry) ∈ tree.toList) : location.length ≤ tree.depth := by
  rw [depth]
  generalize tree.toList = entries at membership
  induction entries with
  | nil => cases membership
  | cons first rest inductionHypothesis =>
      rw [List.foldr_cons]
      rcases List.mem_cons.1 membership with rfl | later
      · exact Nat.le_max_left _ _
      · exact Nat.le_trans (inductionHypothesis later) (Nat.le_max_right _ _)

def namesIn (tree : FileTree) (place : Location) : List FileName :=
  (Std.TreeSet.ofList (tree.toList.filterMap fun (location, _) =>
    (below? place location).bind List.head?)).toList

theorem mem_namesIn {tree : FileTree} {place : Location} {name : FileName} :
    name ∈ tree.namesIn place ↔
      ∃ rest entry, (place ++ name :: rest, entry) ∈ tree.toList := by
  rw [namesIn, Std.TreeSet.mem_toList, Std.TreeSet.mem_ofList, List.contains_iff_mem,
    List.mem_filterMap]
  constructor
  · rintro ⟨⟨location, entry⟩, membership, found⟩
    obtain ⟨names, below, head⟩ := Option.bind_eq_some_iff.1 found
    obtain ⟨-, rfl⟩ := below?_eq_some_iff.1 below
    obtain ⟨rest, rfl⟩ := List.head?_eq_some_iff.1 head
    exact ⟨rest, entry, membership⟩
  · rintro ⟨rest, entry, membership⟩
    refine ⟨_, membership, Option.bind_eq_some_iff.2 ⟨name :: rest, ?_, rfl⟩⟩
    exact below?_eq_some_iff.2 ⟨by simp, rfl⟩

/-- What is below a location, each entry with the names that lead to it from there. `enters` says of
the names that lead to a directory whether it is entered. -/
def visit (tree : FileTree) (enters : Location → Bool) (place : Location) :
    List (Location × Entry) :=
  if enters [] then
    (tree.namesIn place).attach.flatMap fun ⟨name, _inside⟩ =>
      ((tree.find? (place ++ [name])).toList.map fun entry => ([name], entry)) ++
        -- entering a file or a link finds nothing
        (tree.visit (fun names => enters (name :: names)) (place ++ [name])).map
          fun (names, entry) => (name :: names, entry)
  else []
termination_by tree.depth - place.length
decreasing_by
  obtain ⟨rest, entry, membership⟩ := mem_namesIn.1 _inside
  have bound := length_le_depth membership
  simp only [List.length_append, List.length_cons, List.length_nil] at bound ⊢
  omega

end FileTree

end Registrar
