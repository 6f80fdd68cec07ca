import Registrar.Decl.Basic
import Registrar.Text.Case

/-!
Markers. A marker opts a type in: it accepts every attribute whose simple name contains its token,
without regard to case.
-/

set_option autoImplicit false

namespace Registrar

/-- The token that the simple name of an accepted attribute contains. -/
structure Marker where
  token : String
deriving DecidableEq, Repr

namespace Marker

instance : Inhabited Marker := ⟨⟨"JsonA"⟩⟩

/-- The token as it is compared. -/
def key (marker : Marker) : String := Text.foldCase marker.token

/-- Whether the attribute opts its type in. A literal occurrence of the token is enough. -/
def accepts (marker : Marker) (attr : Attribute) : Bool :=
  let name := attr.simpleName
  Text.occursIn marker.token.toList name.toList || Text.containsIgnoreCase name marker.key

/-- The first attribute of a declaration that opts it in. -/
def firstAccepted? (marker : Marker) (decl : TypeDecl) : Option Attribute :=
  decl.attributes.find? marker.accepts

end Marker

end Registrar
