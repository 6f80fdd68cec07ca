import Registrar.FileTree.Access
import Registrar.FileTree.Resolve
import Registrar.FileTree.Visit
import Registrar.Source.Filter
import Registrar.Source.Unit

/-!
Discovery of source files. What is below a root is visited in the order of the names; links are
neither followed nor read, except that the root may be one. What the system refuses to list or to
read is passed over and told.
-/

set_option autoImplicit false

namespace Registrar

inductive SourceFailure where
  /-- A directory that could not be listed. -/
  | visit (path : Path) (cause : FileError)
  | read (path : Path) (cause : FileError)
deriving DecidableEq

namespace SourceFailure

def path : SourceFailure → Path
  | visit path _ | read path _ => path

def message : SourceFailure → String
  | visit path _ => "failed to visit '" ++ path.text ++ "'"
  | read path _ => "failed to read '" ++ path.text ++ "'"

end SourceFailure

structure Discovery where
  files : List SourceFile
  failures : List SourceFailure

namespace Discovery

/-- What an entry adds to a discovery, given the names that lead to it from the root: the file, or
the failure to read it or to list the directory. -/
def ofEntry? (access : Access) (root : Path) (filter : SourceFilter) :
    Location × Entry → Option (Except SourceFailure SourceFile)
  | (names, .file bytes _) =>
      if names.getLast?.any filter.acceptsName then
        match access.reading root names with
        | none => some (.ok ⟨root.extend names, bytes⟩)
        | some cause => some (.error (.read (root.extend names) cause))
      else none
  | (names, .directory) =>
      if names.getLast?.any filter.skips then none
      else (access.listing root names).map fun cause => .error (.visit (root.extend names) cause)
  | (_, .link _) => none

/-- The answers that are files and those that are failures, apart. -/
def ofAnswers (answers : List (Except SourceFailure SourceFile)) : Discovery where
  files := answers.filterMap fun answer => match answer with
    | .ok file => some file
    | .error _ => none
  failures := answers.filterMap fun answer => match answer with
    | .ok _ => none
    | .error failure => some failure

end Discovery

/-- Whether the directory to which the names lead from the root is entered. The name of the root
itself does not matter. -/
def Access.enters (access : Access) (root : Path) (filter : SourceFilter) (names : Location) :
    Bool :=
  !names.getLast?.any filter.skips && (access.listing root names).isNone

/-- What is discovered below a root, unless that is no directory. -/
def FileTree.discover (tree : FileTree) (access : Access) (root : Path) (filter : SourceFilter) :
    Option Discovery :=
  match tree.locate root with
  | .ok place =>
      if tree.find? place = some .directory then
        let entries := ([], .directory) :: tree.visit (access.enters root filter) place
        some (.ofAnswers (entries.filterMap (Discovery.ofEntry? access root filter)))
      else none
  | .error _ => none

end Registrar
