import Registrar.CodeBuilder

/-!
Fragments of a handler. A registered name gives two of them: a serializer context class and a row
of the lookup table. Names are put in as they are.
-/

set_option autoImplicit false

namespace Registrar

inductive FragmentKind where
  | context
  | entry
deriving DecidableEq, Repr

structure Fragment where
  name : String
  kind : FragmentKind
  text : String
deriving DecidableEq, Repr

namespace Fragment

def context (name : String) : Fragment :=
  let builder := (CodeBuilder.new .classBody).blank.deeper
    |>.line ("[JsonSerializable(typeof(" ++ name ++ "))]")
    |>.line ("public partial class " ++ name ++ "Context : JsonSerializerContext \x7b \x7d")
  ⟨name, .context, builder.text⟩

def entry (name : String) : Fragment :=
  ⟨name, .entry,
    "        \x7b typeof(" ++ name ++ "), new " ++ name ++ "Context().GetTypeInfo(typeof(" ++
      name ++ ")) \x7d,"⟩

end Fragment

structure Fragments where
  contexts : List Fragment
  entries : List Fragment
deriving DecidableEq, Repr

namespace Fragments

def ofNames (names : List String) : Fragments :=
  ⟨names.map Fragment.context, names.map Fragment.entry⟩

def empty : Fragments := ofNames []

def size (fragments : Fragments) : Nat := fragments.entries.length

def isEmpty (fragments : Fragments) : Bool := fragments.entries.isEmpty

def names (fragments : Fragments) : List String := fragments.entries.map Fragment.name

end Fragments

end Registrar
