import Registrar.FileTree.Edit

/-!
Building file trees.
-/

set_option autoImplicit false

namespace Registrar.FileTree

def withDirectories (tree : FileTree) (path : Path) : FileTree :=
  ((makeDirectories path).run.run tree).2

def pathFrom (location : Location) (path : Path) : Path :=
  (Path.mk ("/" ++ "/".intercalate (location.map FileName.shown))).join path

/-- The tree with a file where a path leads, and the directories around it. A link that leads
nowhere is followed to where it points, through no more than `links` links. -/
def withFileThrough (bytes : ByteArray) : Nat → Path → FileTree → FileTree
  | 0, _, tree => tree
  | links + 1, path, tree =>
      let tree := tree.withDirectories path.directory
      let file := Entry.file bytes plainMode
      match tree.locate path, tree.holder path with
      | .ok location, _ => tree.put location file
      | .error _, .ok (place, some name) =>
          match tree.find? (place ++ [name]) with
          | some (.link target) => withFileThrough bytes links (pathFrom place target) tree
          | _ => tree.put (place ++ [name]) file
      | .error _, _ => tree

def withFile (tree : FileTree) (path : Path) (bytes : ByteArray) : FileTree :=
  withFileThrough bytes linkLimit path tree

def withLink (tree : FileTree) (path target : Path) : FileTree :=
  let tree := tree.withDirectories path.directory
  match tree.holder path with
  | .ok (place, some name) => tree.put (place ++ [name]) (.link target)
  | _ => tree

/-- The tree without what a path names and all that is below it. -/
def without (tree : FileTree) (path : Path) : FileTree :=
  match tree.holder path with
  | .ok (place, some name) =>
      let gone := (tree.toList.map Prod.fst).filter (place ++ [name]).isPrefixOf
      gone.foldl erase tree
  | _ => tree

def withMode (tree : FileTree) (path : Path) (mode : Nat) : FileTree :=
  match tree.locate path with
  | .ok location =>
      match tree.find? location with
      | some (.file bytes _) => tree.put location (.file bytes mode)
      | some .directory =>
          { tree with directoryModes := tree.directoryModes.insert location mode }
      | _ => tree
  | .error _ => tree

def changes (before after : FileTree) : List (Location × Option Entry) :=
  let locations := (before.toList ++ after.toList).map Prod.fst
  (locations.filter fun location => before.find? location ≠ after.find? location).map
    fun location => (location, after.find? location)

end Registrar.FileTree
