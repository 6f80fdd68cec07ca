import Registrar.Path
import Std.Data.TreeMap

/-!
File trees. A tree gives entries to locations below its root. Locations are ordered component by
component, so that a directory comes before what is in it and the entries of a directory are
ordered by name.
-/

set_option autoImplicit false

namespace Registrar

/-- The names that lead from the root of a tree to a place below it. -/
abbrev Location := List FileName

-- Other libraries compare bytes in their own way; entries keep to this one.
local instance decidableEqBytes : DecidableEq ByteArray := ByteArray.decEq

/-- What stands at a location. -/
inductive Entry where
  | file (bytes : ByteArray) (mode : Nat)
  | directory
  /-- A reference to what another path names from the directory of the link. -/
  | link (target : Path)
deriving DecidableEq

structure FileTree where
  entries : Std.TreeMap Location Entry
  /-- The working directory, where paths that do not start at the root begin. -/
  here : Location := []
  /-- The modes of the directories that were given another one than they are made with. -/
  directoryModes : Std.TreeMap Location Nat := ∅

namespace FileTree

def empty : FileTree := { entries := ∅ }

instance : Inhabited FileTree := ⟨empty⟩

def plainMode : Nat := 0o644

/-- The mode of the directory at a location. A directory is made open to all, and for its owner to
write in. -/
def directoryMode (tree : FileTree) (location : Location) : Nat :=
  tree.directoryModes.getD location 0o755

/-- The entry at a location. The root itself is always there. -/
def find? (tree : FileTree) (location : Location) : Option Entry :=
  if location.isEmpty then some .directory else tree.entries[location]?

def put (tree : FileTree) (location : Location) (entry : Entry) : FileTree :=
  { tree with entries := tree.entries.insert location entry }

def erase (tree : FileTree) (location : Location) : FileTree :=
  { tree with
    entries := tree.entries.erase location
    directoryModes := tree.directoryModes.erase location }

@[simp]
theorem find?_nil (tree : FileTree) : tree.find? [] = some .directory := rfl

theorem find?_put (tree : FileTree) (location other : Location) (entry : Entry) :
    (tree.put location entry).find? other =
      if other ≠ [] ∧ location = other then some entry else tree.find? other := by
  cases other with
  | nil => simp
  | cons name rest =>
      simp [find?, put, Std.TreeMap.getElem?_insert, Std.LawfulEqCmp.compare_eq_iff_eq]

theorem find?_erase (tree : FileTree) (location other : Location) :
    (tree.erase location).find? other =
      if other ≠ [] ∧ location = other then none else tree.find? other := by
  cases other with
  | nil => simp
  | cons name rest =>
      simp [find?, erase, Std.TreeMap.getElem?_erase, Std.LawfulEqCmp.compare_eq_iff_eq]

def toList (tree : FileTree) : List (Location × Entry) := tree.entries.toList

theorem mem_toList_iff {tree : FileTree} {location : Location} (below : location ≠ [])
    {entry : Entry} : (location, entry) ∈ tree.toList ↔ tree.find? location = some entry := by
  rw [toList, Std.TreeMap.mem_toList_iff_getElem?_eq_some]
  simp [find?, below]

end FileTree

end Registrar
