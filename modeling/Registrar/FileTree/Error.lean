/-!
What the file system refuses.
-/

set_option autoImplicit false

namespace Registrar

inductive FileError where
  | noEntry
  | denied
  | alreadyExists
  | notDirectory
  | isDirectory
  | busy
  | linkLoop
  | nameTooLong
  /-- The file was to be read as text but its bytes are none. -/
  | notText
deriving DecidableEq, Repr

namespace FileError

def described : FileError → String × Option Nat
  | .noEntry => ("No such file or directory", some 2)
  | .denied => ("Permission denied", some 13)
  | .busy => ("Device or resource busy", some 16)
  | .alreadyExists => ("File exists", some 17)
  | .notDirectory => ("Not a directory", some 20)
  | .isDirectory => ("Is a directory", some 21)
  | .nameTooLong => ("File name too long", some 36)
  | .linkLoop => ("Too many levels of symbolic links", some 40)
  | .notText => ("stream did not contain valid UTF-8", none)

def message (error : FileError) : String :=
  match error.described with
  | (text, some number) => text ++ " (os error " ++ toString number ++ ")"
  | (text, none) => text

instance : ToString FileError := ⟨message⟩

end FileError

end Registrar
