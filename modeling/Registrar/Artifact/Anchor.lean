import Registrar.Text.Case

/-!
Anchors. Fragments are added to an existing handler behind the first line that contains the
anchor of their part, without regard to case.
-/

set_option autoImplicit false

namespace Registrar

/-- The places behind which fragments are added. -/
inductive Anchor where
  | context
  | table
deriving DecidableEq, Repr

namespace Anchor

def marker : Anchor → String
  | .context => "#region ContextualizationOfClasses"
  | .table => "static readonly Dictionary<Type, JsonTypeInfo>"

instance : ToString Anchor := ⟨marker⟩

def all : List Anchor := [.context, .table]

def find? (anchor : Anchor) (lines : List String) : Option Nat :=
  lines.findIdx? fun line => Text.containsIgnoreCase line anchor.marker

end Anchor

end Registrar
