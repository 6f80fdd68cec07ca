/-!
JSON values.
-/

set_option autoImplicit false

namespace Registrar.Json

/-- A JSON value whose numbers count something. -/
inductive Value where
  | null
  | number (n : Nat)
  | string (text : String)
  | array (items : List Value)
  | object (fields : List (String × Value))
deriving Repr

namespace Value

def ofList {α : Type} (write : α → Value) (items : List α) : Value := .array (items.map write)

def ofOption {α : Type} (write : α → Value) (item : Option α) : Value := item.elim .null write

end Value

end Registrar.Json
