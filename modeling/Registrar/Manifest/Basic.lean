import Registrar.Path
import Registrar.Text.Case

/-!
The settings of a project. Every setting has a default, so that an empty manifest is complete.
-/

set_option autoImplicit false

namespace Registrar

/-- How new registrations go into the handler. -/
inductive WriteMode where
  /-- The whole file is written anew. -/
  | overwrite
  /-- The registrations are added to the existing file. -/
  | append
deriving DecidableEq, Repr, Inhabited

namespace WriteMode

def name : WriteMode → String
  | .overwrite => "overwrite"
  | .append => "append"

instance : ToString WriteMode := ⟨name⟩

def ofName? : String → Option WriteMode
  | "overwrite" => some .overwrite
  | "append" => some .append
  | _ => none

def ofText? (text : String) : Option WriteMode :=
  match Text.foldCase text with
  | "overwrite" => some .overwrite
  | "o" => some .overwrite
  | "append" => some .append
  | "a" => some .append
  | _ => none

def unknownMessage (text : String) : String :=
  "unknown write mode '" ++ text ++ "', expected 'overwrite' or 'append'"

@[simp]
theorem ofName?_name (mode : WriteMode) : ofName? mode.name = some mode := by
  cases mode <;> rfl

end WriteMode

structure ScanSettings where
  root : Path := ⟨"."⟩
  /-- The extensions of the files that are read, without a dot. -/
  extensions : List String := ["cs"]
  /-- The names of directories that are passed over. -/
  exclude : List String := ["bin", "obj"]
  /-- The token of the marker. -/
  marker : String := "JsonA"
deriving DecidableEq, Inhabited

structure OutputSettings where
  artifact : Path := ⟨"JSONHandler.cs"⟩
  /-- The file that receives the import lines. -/
  entryPoint : Path := ⟨"Program.cs"⟩
  /-- The mode in which the handler is written unless another one is asked for. -/
  mode : WriteMode := .overwrite
deriving DecidableEq, Inhabited

structure Manifest where
  scan : ScanSettings := { }
  output : OutputSettings := { }
deriving DecidableEq, Inhabited

end Registrar
