import Registrar.FileTree.Visit

/-!
# Visiting in order

Entering directory after directory finds the same as looking at each entry by itself: an entry is
met if every directory on the way to it is entered. The entries are met in the order of their
locations.
-/

set_option autoImplicit false

namespace Registrar.FileTree

variable {tree : FileTree}

/-- What is sorted by location is determined by its members. -/
theorem eq_of_sorted {α : Type} {first second : List (Location × α)}
    (sorted : first.Pairwise fun a b => compare a.1 b.1 = .lt)
    (others : second.Pairwise fun a b => compare a.1 b.1 = .lt)
    (same : ∀ entry, entry ∈ first ↔ entry ∈ second) : first = second := by
  have nodup : ∀ {entries : List (Location × α)},
      entries.Pairwise (fun a b => compare a.1 b.1 = .lt) → entries.Nodup := by
    intro entries sorted
    apply sorted.imp
    intro a b less equal
    simp [equal] at less
  refine List.Perm.eq_of_pairwise (fun a b _ _ less greater => ?_) sorted others
    ((List.perm_ext_iff_of_nodup (nodup sorted) (nodup others)).2 same)
  have contradiction := Std.TransCmp.lt_trans less greater
  simp at contradiction

/-- Whether a directory lies on the way to what the names lead to. -/
def IsAbove (directory names : Location) : Prop := directory <+: names ∧ directory ≠ names

theorem forall_isAbove_cons {holds : Location → Prop} {name : FileName} {rest : Location} :
    (∀ directory, IsAbove directory (name :: rest) → holds directory) ↔
      holds [] ∧ ∀ directory, IsAbove directory rest → holds (name :: directory) := by
  constructor
  · intro all
    refine ⟨all [] ⟨List.nil_prefix, by simp⟩, fun directory above => all _ ⟨?_, ?_⟩⟩
    · exact List.cons_prefix_cons.2 ⟨rfl, above.1⟩
    · exact fun same => above.2 (List.cons.inj same).2
  · rintro ⟨first, others⟩ directory ⟨before, different⟩
    cases directory with
    | nil => exact first
    | cons other directory =>
        obtain ⟨rfl, inside⟩ := List.cons_prefix_cons.1 before
        exact others directory ⟨inside, fun same => different (congrArg _ same)⟩

theorem not_isAbove_nil {directory : Location} : ¬ IsAbove directory [] :=
  fun above => above.2 (List.prefix_nil.1 above.1)

def visitAt (tree : FileTree) (enters : Location → Bool) (place : Location) (name : FileName) :
    List (Location × Entry) :=
  ((tree.find? (place ++ [name])).toList.map fun entry => ([name], entry)) ++
    (tree.visit (fun names => enters (name :: names)) (place ++ [name])).map
      fun (names, entry) => (name :: names, entry)

theorem visit_eq (enters : Location → Bool) (place : Location) :
    tree.visit enters place =
      if enters [] then (tree.namesIn place).flatMap (tree.visitAt enters place) else [] := by
  have attached : ((tree.namesIn place).attach.flatMap fun name =>
      tree.visitAt enters place name.val) =
        (tree.namesIn place).flatMap (tree.visitAt enters place) := by
    rw [← List.flatMap_map Subtype.val, List.attach_map_subtype_val]
  rw [visit, ← attached]
  rfl

variable {enters : Location → Bool} {place : Location}

theorem mem_visitAt_iff {name : FileName} {names : Location} {entry : Entry} :
    (names, entry) ∈ tree.visitAt enters place name ↔
      (names = [name] ∧ tree.find? (place ++ [name]) = some entry) ∨
        ∃ rest, names = name :: rest ∧
          (rest, entry) ∈ tree.visit (fun names => enters (name :: names)) (place ++ [name]) := by
  rw [visitAt, List.mem_append]
  apply or_congr
  · constructor
    · intro own
      obtain ⟨found, isFound, same⟩ := List.mem_map.1 own
      obtain ⟨rfl, rfl⟩ := Prod.mk.inj same
      exact ⟨rfl, Option.mem_toList.1 isFound⟩
    · rintro ⟨rfl, found⟩
      exact List.mem_map.2 ⟨entry, Option.mem_toList.2 found, rfl⟩
  · rw [List.mem_map]
    constructor
    · rintro ⟨⟨rest, inside⟩, met, same⟩
      obtain ⟨rfl, rfl⟩ := Prod.mk.inj same
      exact ⟨rest, rfl, met⟩
    · rintro ⟨rest, rfl, met⟩
      exact ⟨(rest, entry), met, rfl⟩

theorem exists_of_mem_visitAt {name : FileName} {visited : Location × Entry}
    (membership : visited ∈ tree.visitAt enters place name) : ∃ rest, visited.1 = name :: rest := by
  rcases mem_visitAt_iff.1 membership with ⟨shape, -⟩ | ⟨rest, shape, -⟩
  · exact ⟨[], shape⟩
  · exact ⟨rest, shape⟩

/-- An entry below the place is met if all directories on the way are entered. -/
theorem mem_visit_iff {names : Location} {entry : Entry} :
    (names, entry) ∈ tree.visit enters place ↔
      names ≠ [] ∧ tree.find? (place ++ names) = some entry ∧
        ∀ directory, IsAbove directory names → enters directory = true := by
  induction names generalizing enters place with
  | nil =>
      constructor
      · intro membership
        rw [visit_eq] at membership
        split at membership
        · obtain ⟨name, -, inside⟩ := List.mem_flatMap.1 membership
          obtain ⟨rest, shape⟩ := exists_of_mem_visitAt inside
          cases shape
        · cases membership
      · intro empty
        exact absurd rfl empty.1
  | cons name rest inductionHypothesis =>
      rw [visit_eq, forall_isAbove_cons]
      by_cases entered : enters [] = true
      · rw [if_pos entered, List.mem_flatMap]
        constructor
        · rintro ⟨other, -, inside⟩
          refine ⟨by simp, ?_⟩
          rcases mem_visitAt_iff.1 inside with ⟨shape, found⟩ | ⟨below, shape, met⟩
          · obtain ⟨rfl, rfl⟩ := List.cons.inj shape
            exact ⟨found, entered, fun _ above => absurd above not_isAbove_nil⟩
          · obtain ⟨rfl, rfl⟩ := List.cons.inj shape
            obtain ⟨-, found, further⟩ := inductionHypothesis.1 met
            rw [List.append_assoc, List.singleton_append] at found
            exact ⟨found, entered, further⟩
        · rintro ⟨-, found, -, further⟩
          have listed : name ∈ tree.namesIn place :=
            mem_namesIn.2 ⟨rest, entry, (mem_toList_iff (by simp)).2 found⟩
          refine ⟨name, listed, mem_visitAt_iff.2 ?_⟩
          by_cases last : rest = []
          · subst last
            exact .inl ⟨rfl, found⟩
          · have found : tree.find? (place ++ [name] ++ rest) = some entry := by
              rwa [List.append_assoc, List.singleton_append]
            exact .inr ⟨rest, rfl, inductionHypothesis.2 ⟨last, found, further⟩⟩
      · simp [entered]

theorem namesIn_sorted (tree : FileTree) (place : Location) :
    (tree.namesIn place).Pairwise fun first second => compare first second = .lt :=
  Std.TreeSet.ordered_toList

theorem visit_sorted (tree : FileTree) (enters : Location → Bool) (place : Location) :
    (tree.visit enters place).Pairwise fun first second => compare first.1 second.1 = .lt := by
  induction enters, place using visit.induct tree with
  | case1 enters place entered inductionHypothesis =>
      rw [visit_eq, if_pos entered, List.pairwise_flatMap]
      constructor
      · intro name listed
        rw [visitAt, List.pairwise_append]
        refine ⟨?_, ?_, ?_⟩
        · rcases tree.find? (place ++ [name]) with _ | entry
          · exact .nil
          · exact List.pairwise_singleton _ _
        · rw [List.pairwise_map]
          apply (inductionHypothesis name listed).imp
          intro first second less
          simpa [List.compare_cons_cons] using less
        · -- what is below an entry comes behind it
          intro own isOwn inside isInside
          obtain ⟨entry, -, rfl⟩ := List.mem_map.1 isOwn
          obtain ⟨⟨names, entry⟩, met, rfl⟩ := List.mem_map.1 isInside
          obtain ⟨further, -⟩ := mem_visit_iff.1 met
          obtain ⟨next, rest, rfl⟩ := List.exists_cons_of_ne_nil further
          simp [List.compare_cons_cons]
      · apply (tree.namesIn_sorted place).imp
        intro name other less first isFirst second isSecond
        obtain ⟨rest, shape⟩ := exists_of_mem_visitAt isFirst
        obtain ⟨others, shape'⟩ := exists_of_mem_visitAt isSecond
        rw [shape, shape', List.compare_cons_cons, less]
        rfl
  | case2 enters place closed =>
      rw [visit_eq, if_neg closed]
      exact .nil

end Registrar.FileTree
