import Registrar.FileTree.Edit

/-!
Replacing a file as a whole. The new content is staged in a file of its own beside the old one and
then takes the name of the old one, so that no file is ever seen half written.
-/

set_option autoImplicit false

namespace Registrar

namespace FileTree

def longestName (tree : FileTree) : Nat :=
  tree.toList.foldl (fun longest (location, entry) =>
      let names := match entry with
        | .link target => FileName.ofText target.text :: location
        | _ => location
      names.foldl (fun longest name => max longest name.bytes.length) longest)
    0

/-- A name that nothing in the tree has and that neither the path nor a link mentions. -/
def freshName (tree : FileTree) (path : Path) : FileName :=
  ⟨List.replicate (max tree.longestName (FileName.ofText path.text).bytes.length + 1) 0x7E⟩

def modeFor (tree : FileTree) (path : Path) : Nat :=
  match tree.locate path with
  | .error _ => plainMode
  | .ok location =>
      match tree.find? location with
      | some (.file _ mode) => mode
      | some .directory => tree.directoryMode location
      | _ => plainMode

end FileTree

/-- Makes the path name a file with the given text. Directories that are missing around it are
made; the mode of a file that is there already is kept. A staged file that cannot get its name at
once gets it when the old file could be removed, and else is removed itself. -/
def replaceFile (path : Path) (text : String) : FileM FileError Unit := do
  makeDirectories path.directory
  let tree ← get
  let place ← FileM.ask (·.locate path.directory)
  let staged := place ++ [tree.freshName path]
  set (tree.put staged (.file text.toUTF8 (tree.modeFor path)))
  tryCatch (FileM.change (·.move staged path)) fun _ => do
    FileM.attempt (FileM.change (·.unlink path))
    tryCatch (FileM.change (·.move staged path)) fun error => do
      modify (·.erase staged)
      throw error

end Registrar
