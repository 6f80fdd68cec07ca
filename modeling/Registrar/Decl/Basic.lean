import Registrar.Decl.SimpleName

/-!
Declarations of a source file: a forest of namespaces with the types declared directly in them, in
document order. Types nested in other types are not part of it.
-/

set_option autoImplicit false

namespace Registrar

inductive TypeKind where
  | classType
  | structType
  | recordType
  | interfaceType
  | enumType
  | delegateType
deriving DecidableEq, Repr

namespace TypeKind

def keyword : TypeKind → String
  | .classType => "class"
  | .structType => "struct"
  | .recordType => "record"
  | .interfaceType => "interface"
  | .enumType => "enum"
  | .delegateType => "delegate"

instance : ToString TypeKind := ⟨keyword⟩

def ofKeyword? : String → Option TypeKind
  | "class" => some .classType
  | "struct" => some .structType
  | "record" => some .recordType
  | "interface" => some .interfaceType
  | "enum" => some .enumType
  | "delegate" => some .delegateType
  | _ => none

@[simp]
theorem ofKeyword?_keyword (kind : TypeKind) : ofKeyword? kind.keyword = some kind := by
  cases kind <;> rfl

def ofGrammarSymbol? : String → Option TypeKind
  | "class_declaration" => some .classType
  | "struct_declaration" => some .structType
  | "record_declaration" => some .recordType
  | "record_struct_declaration" => some .recordType
  | "interface_declaration" => some .interfaceType
  | "enum_declaration" => some .enumType
  | "delegate_declaration" => some .delegateType
  | _ => none

/-- The grammar symbol of the usual spelling of a kind. -/
def symbol : TypeKind → String
  | .classType => "class_declaration"
  | .structType => "struct_declaration"
  | .recordType => "record_declaration"
  | .interfaceType => "interface_declaration"
  | .enumType => "enum_declaration"
  | .delegateType => "delegate_declaration"

@[simp]
theorem ofGrammarSymbol?_symbol (kind : TypeKind) : ofGrammarSymbol? kind.symbol = some kind := by
  cases kind <;> rfl

end TypeKind

structure Attribute where
  name : String
deriving DecidableEq, Repr

def Attribute.simpleName (attr : Attribute) : String :=
  Registrar.simpleName attr.name

/-- A type declaration with its attributes. `line` counts from one and is the line where the
declaration begins, attributes included. -/
structure TypeDecl where
  name : String
  kind : TypeKind
  attributes : List Attribute
  line : Nat
deriving DecidableEq, Repr

/-- A member of a namespace: a type, or a nested namespace with its members. -/
inductive Member where
  | type (decl : TypeDecl)
  | space (name : String) (members : List Member)
deriving Repr

/-- A namespace with its members in document order. The namespace of a whole file has no name. -/
structure Namespace where
  name : String
  members : List Member
deriving Repr

namespace Namespace

def ofMembers (members : List Member) : Namespace := ⟨"", members⟩

def types (space : Namespace) : List TypeDecl :=
  space.members.filterMap fun
    | .type decl => some decl
    | .space .. => none

def spaces (space : Namespace) : List Namespace :=
  space.members.filterMap fun
    | .type _ => none
    | .space name members => some ⟨name, members⟩

end Namespace

end Registrar
