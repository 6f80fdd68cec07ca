import Registrar.Proofs.FileTree.Outcome
import Registrar.Proofs.Source.Selection

/-!
# Discovery in a tree that changes

What is found in the files of a tree depends only on the files that something is found in. So a file
in which nothing is found can come or go, and what is found, and its order, stay as they were.
-/

set_option autoImplicit false

namespace Registrar.FileTree

variable {α : Type}

theorem flatMap_filter_of_isEmpty {β : Type} (entries : List β) (found : β → List α) :
    (entries.filter fun entry => !(found entry).isEmpty).flatMap found = entries.flatMap found := by
  induction entries with
  | nil => rfl
  | cons entry rest inductionHypothesis =>
      rw [List.filter_cons, List.flatMap_cons, ← inductionHypothesis]
      split
      · rfl
      · rename_i nothing
        have empty : found entry = [] := by simpa using nothing
        rw [empty, List.nil_append]

/-- Lists that are sorted by location give the same, in the same order, if they agree wherever
something is found. -/
theorem flatMap_congr_of_sorted {β : Type} {first second : List (Location × β)}
    {found : Location × β → List α}
    (sorted : first.Pairwise fun a b => compare a.1 b.1 = .lt)
    (others : second.Pairwise fun a b => compare a.1 b.1 = .lt)
    (same : ∀ entry, found entry ≠ [] → (entry ∈ first ↔ entry ∈ second)) :
    first.flatMap found = second.flatMap found := by
  have entries : (first.filter fun entry => !(found entry).isEmpty) =
      second.filter fun entry => !(found entry).isEmpty := by
    apply eq_of_sorted (sorted.filter _) (others.filter _)
    intro entry
    simp only [List.mem_filter, Bool.not_eq_true', List.isEmpty_eq_false_iff]
    exact and_congr_left (same entry)
  rw [← flatMap_filter_of_isEmpty first, entries, flatMap_filter_of_isEmpty]

/-- Whether a file at the location is read in a scan below the root. -/
def IsScanned (tree : FileTree) (access : Access) (root : Path) (filter : SourceFilter)
    (location : Location) : Prop :=
  ∃ place names, tree.locate root = .ok place ∧ location = place ++ names ∧
    filter.Selects names ∧ access.Reads root names

variable {tree after : FileTree} {access : Access} {root : Path} {filter : SourceFilter}
  {place : Location}

theorem exists_root_of_changesOnly {location : Location} {path : Path}
    (changes : ChangesOnly (some location) path tree after)
    (aside : (tree.erase location).isDirectory root = true) :
    ∃ place, tree.locate root = .ok place ∧ tree.find? place = some .directory ∧
      after.locate root = .ok place ∧ after.find? place = some .directory := by
  obtain ⟨place, located, directory⟩ := isDirectory_iff.1 aside
  have before := keeps_erase tree location
  exact ⟨place, before.locate located, before.find?_eq_some _ _ directory,
    changes.keeps.locate located, changes.keeps.find?_eq_some _ _ directory⟩

theorem flatMap_readBelow_of_changesOnly {location : Location} {path : Path}
    (changes : ChangesOnly (some location) path tree after)
    (located : tree.locate root = .ok place)
    (directory : tree.find? place = some .directory)
    (remains : after.find? place = some .directory)
    {found : Location × ByteArray → List α}
    (before : ∀ bytes mode, tree.find? location = some (.file bytes mode) →
      tree.IsScanned access root filter location → ∀ names, found (names, bytes) = [])
    (behind : ∀ bytes mode, after.find? location = some (.file bytes mode) →
      tree.IsScanned access root filter location → ∀ names, found (names, bytes) = []) :
    (after.readBelow access root filter place).flatMap found =
      (tree.readBelow access root filter place).flatMap found := by
  apply flatMap_congr_of_sorted readBelow_sorted readBelow_sorted
  rintro ⟨names, bytes⟩ something
  rw [mem_readBelow_iff remains, mem_readBelow_iff directory]
  refine and_congr_left fun ⟨selected, permitted⟩ => ?_
  by_cases here : place ++ names = location
  · have scanned : tree.IsScanned access root filter location :=
      ⟨place, names, located, here.symm, selected, permitted⟩
    rw [here]
    constructor
    · rintro ⟨mode, stands⟩
      exact absurd (behind bytes mode stands scanned names) something
    · rintro ⟨mode, stood⟩
      exact absurd (before bytes mode stood scanned names) something
  · have apart : some (place ++ names) ≠ some location := fun same => here (Option.some.inj same)
    constructor
    · rintro ⟨mode, stands⟩
      rcases stood : tree.find? (place ++ names) with _ | entry
      · cases (changes.isDirectory _ _ apart stood stands).1
      · have kept := changes.find?_eq_some _ _ apart stood
        exact ⟨mode, kept.symm.trans stands⟩
    · rintro ⟨mode, stood⟩
      exact ⟨mode, changes.find?_eq_some _ _ apart stood⟩

end Registrar.FileTree
