import Registrar.FileTree.Resolve

/-!
Changes of a file tree. A single change is a function that gives the changed tree or is refused; a
procedure makes several, and what it has changed stays changed when a later one is refused.
-/

set_option autoImplicit false

namespace Registrar

namespace FileTree

def makeDirectory (tree : FileTree) (path : Path) : Except FileError FileTree := do
  match ← tree.holder path with
  | (_, none) => .error .alreadyExists
  | (location, some name) =>
      match tree.find? (location ++ [name]) with
      | some _ => .error .alreadyExists
      | none => .ok (tree.put (location ++ [name]) .directory)

def unlink (tree : FileTree) (path : Path) : Except FileError FileTree := do
  match ← tree.holder path with
  | (_, none) => .error .isDirectory
  | (location, some name) =>
      match tree.find? (location ++ [name]) with
      | none => .error .noEntry
      | some .directory => .error .isDirectory
      | some _ =>
          if path.endsWithSlash then .error .notDirectory
          else .ok (tree.erase (location ++ [name]))

def move (tree : FileTree) (source : Location) (path : Path) : Except FileError FileTree := do
  match ← tree.holder path with
  | (_, none) => .error .busy
  | (location, some name) =>
      if path.endsWithSlash then .error .notDirectory
      else
        match tree.find? source, tree.find? (location ++ [name]) with
        | none, _ => .error .noEntry
        | some _, some .directory => .error .isDirectory
        | some entry, _ => .ok ((tree.erase source).put (location ++ [name]) entry)

end FileTree

abbrev FileM (ε α : Type) := ExceptT ε (StateM FileTree) α

namespace FileM

def ask {ε α : Type} (question : FileTree → Except ε α) : FileM ε α := do
  MonadExcept.ofExcept (question (← get))

def change {ε : Type} (edit : FileTree → Except ε FileTree) : FileM ε Unit := do
  set (← ask edit)

/-- A procedure that is of use even if it fails. -/
def attempt {ε : Type} (procedure : FileM ε Unit) : FileM ε Unit :=
  tryCatch procedure fun _ => pure ()

def during {ε δ α : Type} (explain : ε → δ) (procedure : FileM ε α) : FileM δ α :=
  ExceptT.mk do
    match ← procedure.run with
    | .ok answer => pure (.ok answer)
    | .error error => pure (.error (explain error))

end FileM

/-- Makes sure that the first of the given paths names a directory; the others are the paths of
the directories around it. -/
def makeDirectoriesAmong : List Path → FileM FileError Unit
  | [] => pure ()
  | path :: above => do
      let settle (error : FileError) : FileM FileError Unit := do
        if (← get).isDirectory path then pure () else throw error
      tryCatch (FileM.change (·.makeDirectory path)) fun error => do
        if error = .noEntry then
          makeDirectoriesAmong above
          tryCatch (FileM.change (·.makeDirectory path)) settle
        else settle error

def makeDirectories (path : Path) : FileM FileError Unit :=
  makeDirectoriesAmong path.ancestors

end Registrar
