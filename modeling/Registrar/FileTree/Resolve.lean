import Registrar.FileTree.Basic
import Registrar.FileTree.Error

/-!
Where paths lead in a file tree. A path is followed step by step from the root or the working
directory, and the path of each link met on the way is followed in its place.
-/

set_option autoImplicit false

namespace Registrar

/-- The steps of a path. One that ends with a slash steps into the directory it names. -/
def Path.walkSteps (path : Path) : List FileName :=
  if path.endsWithSlash then path.steps ++ [FileName.ofText "."] else path.steps

/-- Whether a step names no entry of the directory where it is taken. -/
def isDotStep (step : FileName) : Bool := step == "." || step == ".."

namespace FileTree

def linkLimit : Nat := 40

/-- Where the steps lead from a location. `jump` says where they lead from there on when they meet
a link; without it no link may be met. -/
def followSteps (tree : FileTree)
    (jump : Option (Location → List FileName → Except FileError Location)) (location : Location) :
    List FileName → Except FileError Location
  | [] => .ok location
  | step :: rest =>
      if tree.find? location ≠ some .directory then .error .notDirectory
      else if step = "." then tree.followSteps jump location rest
      else if step = ".." then tree.followSteps jump location.dropLast rest
      else
        match tree.find? (location ++ [step]) with
        | none => .error .noEntry
        | some (.link target) =>
            match jump with
            | none => .error .linkLoop
            | some jump =>
                if target.text.isEmpty then .error .noEntry
                else jump (if target.isAbsolute then [] else location) (target.walkSteps ++ rest)
        | some _ => tree.followSteps jump (location ++ [step]) rest

/-- Where the steps lead from a location, if no more than `links` links are met. -/
def follow (tree : FileTree) : Nat → Location → List FileName → Except FileError Location
  | 0 => tree.followSteps none
  | links + 1 => tree.followSteps (some (tree.follow links))

@[simp]
theorem follow_nil (tree : FileTree) (links : Nat) (location : Location) :
    tree.follow links location [] = .ok location := by
  cases links <;> rfl

theorem follow_cons (tree : FileTree) (links : Nat) (location : Location) (step : FileName)
    (rest : List FileName) : tree.follow links location (step :: rest) =
      if tree.find? location ≠ some .directory then .error .notDirectory
      else if step = "." then tree.follow links location rest
      else if step = ".." then tree.follow links location.dropLast rest
      else
        match tree.find? (location ++ [step]) with
        | none => .error .noEntry
        | some (.link target) =>
            match links with
            | 0 => .error .linkLoop
            | links + 1 =>
                if target.text.isEmpty then .error .noEntry
                else
                  tree.follow links (if target.isAbsolute then [] else location)
                    (target.walkSteps ++ rest)
        | some _ => tree.follow links (location ++ [step]) rest := by
  cases links <;> rfl

def origin (tree : FileTree) (path : Path) : Location :=
  if path.isAbsolute then [] else tree.here

/-- The location that a path names, through all links. -/
def locate (tree : FileTree) (path : Path) : Except FileError Location :=
  if path.text.isEmpty then .error .noEntry
  else tree.follow linkLimit (tree.origin path) path.walkSteps

def stat (tree : FileTree) (path : Path) : Except FileError Entry := do
  let location ← tree.locate path
  match tree.find? location with
  | some entry => .ok entry
  | none => .error .noEntry

def pathExists (tree : FileTree) (path : Path) : Bool := (tree.stat path).toBool

def isDirectory (tree : FileTree) (path : Path) : Bool :=
  match tree.stat path with
  | .ok .directory => true
  | _ => false

/-- The directory in which the last step of a path is taken, and the name that this step gives to
an entry there; a step to the same or the upper directory gives none. -/
def holder (tree : FileTree) (path : Path) : Except FileError (Location × Option FileName) :=
  match path.steps.reverse with
  | [] => if path.text.isEmpty then .error .noEntry else .ok ([], none)
  | last :: before => do
      let location ← tree.follow linkLimit (tree.origin path) before.reverse
      if tree.find? location ≠ some .directory then .error .notDirectory
      else .ok (location, if isDotStep last then none else some last)

def readBytes (tree : FileTree) (path : Path) : Except FileError ByteArray := do
  match ← tree.stat path with
  | .file bytes _ => .ok bytes
  | _ => .error .isDirectory

def readText (tree : FileTree) (path : Path) : Except FileError String := do
  match String.fromUTF8? (← tree.readBytes path) with
  | some text => .ok text
  | none => .error .notText

end FileTree

end Registrar
