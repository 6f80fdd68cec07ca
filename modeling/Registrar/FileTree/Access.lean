import Registrar.FileTree.Basic
import Registrar.FileTree.Error

/-!
Access to what stands in a tree. The system may refuse to list a directory or to read a file that is
there.
-/

set_option autoImplicit false

namespace Registrar

/-- The path of what is reached from a root by the given names. -/
def Path.extend (root : Path) (names : Location) : Path :=
  names.foldl (fun path name => path.join ⟨name.shown⟩) root

/-- The number of bytes in the path of what is reached from a root by the given names. -/
def Path.bytesBelow (root : Path) : Location → Nat
  | [] => root.text.utf8ByteSize
  | names =>
      names.foldl (fun size name => size + 1 + name.bytes.length)
        (root.text.utf8ByteSize - if root.endsWithSlash then 1 else 0)

/-- Why the system refuses what names lead to from a root, if it does. -/
structure Access where
  /-- A refusal to list a directory. -/
  listing : Path → Location → Option FileError := fun _ _ => none
  /-- A refusal to read a file. -/
  reading : Path → Location → Option FileError := fun _ _ => none

namespace Access

def pathLimit : Nat := 4096

/-- The access of a user who may read everything. -/
def ofPathLimit : Access :=
  let refusal (root : Path) (names : Location) : Option FileError :=
    if pathLimit ≤ root.bytesBelow names then some .nameTooLong else none
  { listing := refusal, reading := refusal }

end Access

end Registrar
